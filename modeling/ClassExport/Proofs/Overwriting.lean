import ClassExport.Generation
import ClassExport.Proofs.Growth

/-! Which files an export changes that is told not to overwrite. -/
namespace ClassExport

open FileTree

variable {w w' : Workspace} {t t' : FileTree} {here l place : Location} {p : Path}
  {text name : String} {init parts : List String} {bytes : ByteArray}

/-- A path whose way enters a folder that can be missing while there is a file at its end. -/
structure Detour (here : Location) (p : Path) : Prop where
  named : ∃ name ∈ p.parts.getLast?, ¬ isStep name
  plain : ¬ hasNul p.text
  short : ∀ part ∈ p.parts, part.utf8ByteSize ≤ maxName
  apart : ¬ target here p <+: here
  clear : target here p ∉ stops (origin here p) p.parts.dropLast
  missing : ∃ l ∈ stops (origin here p) p.parts.dropLast, ¬ l <+: here ∧
    ¬ l <+: target here p

theorem prefix_stepTo (hu : name ≠ "..") : here <+: stepTo here name := by
  rw [stepTo, if_neg hu]
  split
  · exact List.prefix_rfl
  · exact List.prefix_append here [name]

theorem prefix_of_mem_stops (hu : ".." ∉ parts) (hl : l ∈ stops here parts) :
    l <+: destination here parts := by
  induction parts generalizing here l with
  | nil => rw [List.mem_singleton.mp hl]; exact List.prefix_rfl
  | cons part rest ih =>
    rw [List.mem_cons, not_or] at hu
    have hr : stepTo here part <+: destination (stepTo here part) rest :=
      ih hu.2 (here_mem_stops _ _)
    obtain rfl | hl := List.mem_cons.mp hl
    · exact (prefix_stepTo (Ne.symm hu.1)).trans hr
    · exact ih hu.2 hl

/-- The empty path ends in no name. -/
theorem text_ne_of_parts (hp : p.parts = init ++ [name]) (hn : ¬ isStep name) : p.text ≠ "" := by
  intro ht
  have he : init ++ [name] = [] ++ [""] := by
    rw [← hp, show p = ⟨""⟩ from congrArg Path.mk ht]
    rfl
  obtain ⟨-, he⟩ := List.append_inj' he rfl
  exact hn (by simp [isStep, List.head_eq_of_cons_eq he])

theorem Detour.start_eq (hd : Detour here p) :
    ∃ init name, start here p = .ok (origin here p, init ++ [name]) ∧ ¬ isStep name := by
  obtain ⟨name, hg, hp⟩ := hd.named
  obtain ⟨init, hi⟩ := List.getLast?_eq_some_iff.mp hg
  exact ⟨init, name, hi ▸ start_eq_ok hd.plain (text_ne_of_parts hi hp) here, hp⟩

/-- Only a path with `..` in it is a detour. -/
theorem not_detour_of_not_up (hu : ".." ∉ p.parts) : ¬ Detour here p := by
  intro hd
  obtain ⟨l, hl, -, hn⟩ := hd.missing
  obtain ⟨name, hg, -⟩ := hd.named
  obtain ⟨init, hi⟩ := List.getLast?_eq_some_iff.mp hg
  rw [hi, List.dropLast_concat] at hl
  rw [hi, List.mem_append, not_or, List.mem_singleton] at hu
  apply hn
  rw [target, hi, destination_append]
  exact (prefix_of_mem_stops hu.1 hl).trans (prefix_stepTo (Ne.symm hu.2))

/-- What a run keeps when it overwrites nothing. -/
structure Kept (w w' : Workspace) : Prop where
  sound : w'.Sound
  folder : w'.folder = w.folder
  files : ∀ {place bytes}, w.tree.get? place = some (.file bytes) →
    w'.tree.get? place = some (.file bytes)

theorem Kept.refl (h : w.Sound) : Kept w w := ⟨h, rfl, id⟩

theorem Kept.trans {w'' : Workspace} (h : Kept w w') (h' : Kept w' w'') : Kept w w'' :=
  ⟨h'.sound, h'.folder.trans h.folder, fun hl => h'.files (h.files hl)⟩

theorem Kept.of_grown (h : w.Sound) (hg : Grown w.tree w'.tree) (hf : w'.folder = w.folder) :
    Kept w w' :=
  ⟨⟨hg.wellFormed, by rw [hf]; exact hg.keeps h.folder⟩, hf, hg.keeps⟩

theorem target_eq (hs : start here p = .ok (origin here p, init ++ [name])) (hp : ¬ isStep name) :
    target here p = destination (origin here p) init ++ [name] := by
  obtain ⟨-, -, he⟩ := eq_of_start hs
  rw [target, ← he, destination_append, destination_cons, stepTo_name hp, destination_nil]

/-- A file is written over only at the end of a detour. -/
theorem detour_of_grown (h : t.WellFormed) (hf : t.get? here = some .folder) (hg : Grown t t')
    (hs : start here p = .ok (origin here p, init ++ [name])) (ho : Open t' (origin here p) init)
    (hp : ¬ isStep name) (hl : name.utf8ByteSize ≤ maxName)
    (hb : t.get? (target here p) = some (.file bytes))
    (hn : (t.locate here p).toOption.map (·.2.kind) ≠ some .file) : Detour here p := by
  have ht := target_eq hs hp
  obtain ⟨hz, -, he⟩ := eq_of_start hs
  have hc : ¬ Open t (origin here p) init := by
    intro hc
    exact hn ((isFile_iff hs hp).mpr ⟨hc, hl, bytes, ht ▸ hb⟩)
  obtain ⟨l, hm, hk⟩ : ∃ l ∈ stops (origin here p) init, t.get? l ≠ some .folder := by
    by_contra hall
    refine hc ⟨fun l hm => ?_, ho.2⟩
    by_contra hk
    exact hall ⟨l, hm, hk⟩
  -- the stop was added, so it is below no place that was there
  have hv : t.get? l = none := by
    obtain hv | ⟨hv, -⟩ := hg.adds (ho.1 l hm)
    · exact (hk hv).elim
    · exact hv
  refine ⟨⟨name, by simp [← he], hp⟩, hz, ?_, ?_, ?_, ⟨l, ?_, ?_, ?_⟩⟩
  · rw [← he]
    intro part hm
    obtain hm | hm := List.mem_append.mp hm
    · exact ho.2 part hm
    · rwa [List.mem_singleton.mp hm]
  · intro hpre
    have hne : target here p ≠ here := by
      intro he
      rw [he, hf] at hb
      cases hb
    have hfold := h.folder_of_prefix hpre (by simp [hf]) hne
    rw [hb] at hfold
    cases hfold
  · rw [← he, List.dropLast_concat]
    intro hm
    have hfold := ho.1 _ hm
    rw [hg.keeps hb] at hfold
    cases hfold
  · rwa [← he, List.dropLast_concat]
  · exact fun hpre => h.get?_of_prefix hpre (by simp [hf]) hv
  · exact fun hpre => h.get?_of_prefix hpre (by simp [hb]) hv

section

open Disk Generation

theorem kept_writeThrough (h : w.Sound)
    (hn : (w.tree.locate w.folder p).toOption.map (·.2.kind) ≠ some .file)
    (hd : ¬ Detour w.folder p) : Kept w ((writeThrough (m := Session) p text).run w).2 := by
  obtain ⟨hg, hf⟩ := grown_run_makeFolders h ((p.parent?.map Path.ancestors).getD [])
  rw [writeThrough, Session.run_bind]
  rcases hr : (makeFolders (m := Session) ((p.parent?.map Path.ancestors).getD [])).run w
    with ⟨fault | _, w₁⟩
  · rw [hr] at hg hf
    exact .of_grown h hg hf
  · rw [hr] at hg hf
    dsimp only
    rw [Session.run_writeFile]
    have hk := Kept.of_grown h hg hf
    cases hw : w₁.tree.writeFile w₁.folder p text with
    | error fault => exact hk
    | ok tree =>
      rw [hf] at hw
      have hfold : w₁.tree.get? w.folder = some .folder := hg.keeps h.folder
      obtain ⟨init, name, hs, ho, hp, hl, hv, rfl⟩ := writeFile_eq_ok hg.wellFormed hfold hw
      have ht := target_eq hs hp
      rw [← ht] at hv ⊢
      have hne : target w.folder p ≠ [] := by simp [ht]
      refine ⟨⟨?_, ?_⟩, hf, fun {place bytes} hb => ?_⟩
      · dsimp only
        rw [ht] at hv ⊢
        exact hg.wellFormed.set (ho.1 _ (destination_mem_stops _ _)) (Or.inl hv)
      · dsimp only
        rw [get?_set hne, if_neg, hf, hfold]
        intro he
        rw [← he, hf] at hv
        exact hv hfold
      · dsimp only
        rw [get?_set hne, if_neg, hk.files hb]
        rintro rfl
        exact hd (detour_of_grown h.tree h.folder hg hs ho hp hl hb hn)

/-- The folders above a path that ends in a name are those of the parts before it. -/
theorem parent?_of_parts (hp : p.parts = init ++ [name]) (hn : ¬ isStep name) :
    Path.Spelled p.isAbsolute (init ++ [name]) ∧
      p.parent? =
        some (Path.ofParts p.isAbsolute (Path.dropIdle p.isAbsolute init.reverse).reverse) := by
  have hl : Path.Spelled p.isAbsolute (init.reverse.reverse ++ [name]) := by
    rw [List.reverse_reverse, ← hp]
    exact Path.spelled_parts (text_ne_of_parts hp hn)
  have hi : ¬ Path.isIdle p.isAbsolute name init.reverse := fun hi => hn (isStep_of_isIdle hi)
  have hq := Path.parent?_eq hl hi
  rw [List.reverse_reverse] at hl hq
  rw [← hp, Path.ofParts_parts] at hq
  exact ⟨hl, hq⟩

theorem run_makeFolders_of_parts (h : w.Sound) (hp : p.parts = init ++ [name]) (hn : ¬ isStep name)
    (hz : ∀ s ∈ init, ¬ hasNul s) :
    ∃ r, (makeFolders (m := Session) ((p.parent?.map Path.ancestors).getD [])).run w =
        (r, ⟨(build w.tree (origin w.folder p) init).1, w.folder⟩) ∧
      (r = .ok () ↔ (build w.tree (origin w.folder p) init).2 = true) := by
  obtain ⟨hl, hq⟩ := parent?_of_parts hp hn
  obtain ⟨xs, rfl⟩ : ∃ xs, init = xs.reverse :=
    ⟨init.reverse, (List.reverse_reverse init).symm⟩
  rw [List.reverse_reverse] at hq
  rw [hq]
  exact run_makeFolders h.tree h.folder hl.of_append hz (Path.length_dropIdle_lt hl.of_append) rfl

/-- The folders of an output path are made before the file at its end is written. -/
theorem run_writeThrough {base : Location} (h : w.Sound)
    (hs : start w.folder p = .ok (base, init ++ [name])) (hp : ¬ isStep name)
    (hb : (build w.tree base init).2 = true) :
    (writeThrough (m := Session) p text).run w =
      (Disk.writeFile (m := Session) p text).run ⟨(build w.tree base init).1, w.folder⟩ := by
  obtain ⟨hz, rfl, he⟩ := eq_of_start hs
  have hz' : ∀ s ∈ init, ¬ hasNul s := by
    intro s hm hs
    rw [← Path.ofParts_parts p, hasNul_ofParts] at hz
    exact hz ⟨s, by rw [← he]; exact List.mem_append_left _ hm, hs⟩
  obtain ⟨r, hr, hrb⟩ := run_makeFolders_of_parts h he.symm hp hz'
  rw [writeThrough, Session.run_bind, hr, hrb.mpr hb]

theorem writeFile_of_open {base : Location} (hs : start here p = .ok (base, init ++ [name]))
    (ho : Open t base init) (hp : ¬ isStep name) (hl : name.utf8ByteSize ≤ maxName)
    (hv : t.get? (destination base init ++ [name]) ≠ some .folder) :
    t.writeFile here p text =
      .ok (t.set (destination base init ++ [name]) (.file text.toUTF8)) := by
  cases hk : t.get? (destination base init ++ [name]) with
  | none => simp only [FileTree.writeFile, slot_of_vacant hs ho hp hl hk, bind, Except.bind]
  | some node =>
    cases node with
    | folder => exact (hv hk).elim
    | file bytes => simp only [FileTree.writeFile, slot_of_taken hs ho hp hl hk, bind, Except.bind]

/-- A working folder and a file in some folder, and nothing else. -/
theorem exists_file_beside {dir : Location} (hn : ¬ dir ++ [name] <+: here) (bytes : ByteArray) :
    ∃ tree : FileTree, Workspace.Sound ⟨tree, here⟩ ∧ ∀ l, tree.get? l =
      if l = dir ++ [name] then some (.file bytes) else if l <+: dir ∨
        l <+: here then some .folder else none := by
  obtain ⟨t₁, h₁, hg₁⟩ := exists_folder wellFormed_empty here
  obtain ⟨t₂, h₂, hg₂⟩ := exists_folder h₁ dir
  have hg : ∀ l, t₂.get? l = if l <+: dir ∨ l <+: here then some .folder else none := by
    intro l
    have he : ¬ l <+: here → empty.get? l = none := by
      intro hl
      have hne : l ≠ [] := by
        rintro rfl
        exact hl List.nil_prefix
      simp [FileTree.get?, hne, empty]
    rw [hg₂, hg₁]
    by_cases hd : l <+: dir
    · simp [hd]
    · by_cases hh : l <+: here
      · simp [hh]
      · simp [hd, hh, he hh]
  have hd : t₂.get? dir = some .folder := by simp [hg]
  have hv : t₂.get? (dir ++ [name]) = none := by
    rw [hg, if_neg]
    rintro (hp | hp)
    · have hlen := hp.length_le
      rw [List.length_append, List.length_singleton] at hlen
      omega
    · exact hn hp
  have hh : here ≠ dir ++ [name] := by
    rintro rfl
    exact hn List.prefix_rfl
  refine ⟨t₂.set (dir ++ [name]) (.file bytes),
    ⟨h₂.set hd (Or.inl (by simp [hv])), ?_⟩, fun l => ?_⟩
  · rw [get?_set (by simp), if_neg hh, hg, if_pos (Or.inr List.prefix_rfl)]
  · rw [get?_set (by simp), hg]

/-- Every detour leads to a file that is not seen beforehand and then written over. -/
theorem Detour.exists_overwritten (hd : Detour here p) (bytes : ByteArray) : ∃ tree : FileTree,
    Workspace.Sound ⟨tree, here⟩ ∧ tree.get? (target here p) = some (.file bytes) ∧
      (tree.locate here p).toOption.map (·.2.kind) ≠ some .file ∧
      ∀ text,
        ((writeThrough (m := Session) p text).run ⟨tree, here⟩).2.tree.get? (target here p) =
        some (.file text.toUTF8) := by
  obtain ⟨init, name, hs, hp⟩ := hd.start_eq
  obtain ⟨-, -, hi⟩ := eq_of_start hs
  have ht := target_eq hs hp
  have hclear := hd.clear
  obtain ⟨l, hl, hlh, hlt⟩ := hd.missing
  rw [← hi, List.dropLast_concat, ht] at hclear
  rw [← hi, List.dropLast_concat] at hl
  rw [ht] at hlt ⊢
  obtain ⟨tree, h, hg⟩ := exists_file_beside (ht ▸ hd.apart) bytes
  have hbase : tree.get? (origin here p) = some .folder := folder_origin h.folder
  have hb : tree.get? (destination (origin here p) init ++ [name]) = some (.file bytes) := by
    rw [hg, if_pos rfl]
  have hc : ¬ Open tree (origin here p) init := by
    intro ho
    have hf := ho.1 l hl
    have hd : ¬ l <+: destination (origin here p) init :=
      fun hd => hlt (hd.trans (List.prefix_append _ _))
    have hne : l ≠ destination (origin here p) init ++ [name] := by
      rintro rfl
      exact hlt List.prefix_rfl
    simp [hg, hne, hd, hlh] at hf
  have hshort : ∀ part ∈ init ++ [name], part.utf8ByteSize ≤ maxName := by
    rw [hi]
    exact hd.short
  rw [List.forall_mem_append, List.forall_mem_singleton] at hshort
  have hmade : (build tree (origin here p) init).2 = true := by
    refine build_of_no_file h.tree hbase hshort.1 fun l hl bytes' hf => ?_
    rw [hg] at hf
    split at hf
    · rename_i he
      exact hclear (he ▸ hl)
    · split at hf <;> cases hf
  refine ⟨tree, h, hb, fun hk => hc ((isFile_iff hs hp).mp hk).1, fun text => ?_⟩
  have hkept : (build tree (origin here p) init).1.get? (destination (origin here p) init ++
      [name]) ≠ some .folder := by
    simp [build_keeps h.tree hbase hb]
  rw [run_writeThrough h hs hp hmade, Session.run_writeFile,
    writeFile_of_open hs (open_of_build h.tree hbase hmade) hp hshort.2 hkept]
  dsimp only
  rw [get?_set (by simp), if_pos rfl]

theorem run_write (content : String) :
    ((write (m := Session) p content).run w).2 =
      ((writeThrough (m := Session) p content).run w).2 := by
  rw [write, Session.run_bind]
  cases ((writeThrough (m := Session) p content).run w).1 <;> rfl

variable {resolve : String → Except Failure Class} {settings : EmitSettings} {dryRun : Bool}

theorem run_generateClass (ho : settings.overwrite = false) (c : Class) :
    ((generateClass (m := Session) settings dryRun name c).run w).2 =
      if dryRun = true ∨
          (w.tree.locate w.folder (settings.outputPath c.name)).toOption.map (·.2.kind) =
            some .file then w
      else ((writeThrough (m := Session) (settings.outputPath c.name)
        (c.render settings)).run w).2 := by
  simp only [generateClass, emit, ho, Bool.false_eq_true, if_false, Session.run_bind,
    Session.run_isFile, Session.run_pure]
  by_cases hk : (w.tree.locate w.folder (settings.outputPath c.name)).toOption.map (·.2.kind) =
    some .file
  · simp only [hk, or_true, if_true, decide_true, Session.run_pure]
  · cases dryRun with
    | true =>
      simp only [hk, decide_false, true_or, if_true, Bool.false_eq_true, if_false, Session.run_pure]
    | false =>
      simp only [hk, Bool.false_eq_true, or_self, if_false, decide_false,
        Session.run_bind, Session.run_pure, run_write]

/-- What one class of a run leaves of the tree. -/
theorem kept_generateName (h : w.Sound) (ho : settings.overwrite = false)
    (hd : dryRun = true ∨ ∀ c, resolve name = .ok c →
      ¬ Detour w.folder (settings.outputPath c.name)) :
    Kept w ((generateName (m := Session) resolve settings dryRun name).run w).2 := by
  rw [generateName]
  cases hr : resolve name with
  | error failure => exact .refl h
  | ok c =>
    dsimp only
    rw [run_generateClass ho]
    split
    · exact .refl h
    · rename_i hk
      rw [not_or] at hk
      obtain hd | hd := hd
      · exact (hk.1 hd).elim
      · exact kept_writeThrough h hk.2 (hd c hr)

theorem kept_generateEach (h : w.Sound) (ho : settings.overwrite = false)
    (hd : dryRun = true ∨ ∀ name c, resolve name = .ok c →
      ¬ Detour w.folder (settings.outputPath c.name))
    (names : List String) :
    Kept w ((generateEach (m := Session) resolve settings dryRun names).run w).2 := by
  induction names generalizing w with
  | nil => exact .refl h
  | cons name names ih =>
    have hk : Kept w ((generateName (m := Session) resolve settings dryRun name).run w).2 :=
      kept_generateName h ho (hd.imp_right fun hd => hd name)
    exact hk.trans (ih hk.sound (by rwa [hk.folder]))

theorem run_generate (names : List String) :
    ((generate (m := Session) resolve settings dryRun names).run w).2 =
    ((generateEach (m := Session) resolve settings dryRun names).run w).2 := rfl

theorem run_generate_single {c : Class} (hr : resolve name = .ok c) :
    ((generate (m := Session) resolve settings dryRun [name]).run w).2 =
      ((generateClass (m := Session) settings dryRun name c).run w).2 := by
  rw [run_generate, generateEach, Session.run_bind, generateName, hr]
  rfl

/-- A run that is told not to overwrite keeps every file of every tree exactly when it is a dry run
or no class that the resolver gives has an output path that is a detour. -/
theorem Generation.keeps_files_iff (ho : settings.overwrite = false) :
    (∀ tree, Workspace.Sound ⟨tree, here⟩ → ∀ names place bytes,
      tree.get? place = some (.file bytes) →
        ((generate (m := Session) resolve settings dryRun names).run
          ⟨tree, here⟩).2.tree.get? place = some (.file bytes)) ↔
      dryRun = true ∨ ∀ name c, resolve name = .ok c →
        ¬ Detour here (settings.outputPath c.name) := by
  constructor
  · intro hk
    by_contra hn
    rw [not_or] at hn
    obtain ⟨hdry, hn⟩ := hn
    obtain ⟨name, hn⟩ := Classical.not_forall.mp hn
    obtain ⟨c, hn⟩ := Classical.not_forall.mp hn
    obtain ⟨hr, hd⟩ : resolve name = .ok c ∧ Detour here (settings.outputPath c.name) := by
      simpa [Classical.not_imp] using hn
    -- any content but the one that is written shows the difference
    obtain ⟨tree, h, hb, hkind, hw⟩ := hd.exists_overwritten ((c.render settings).toUTF8.push 0)
    have hkept := hk tree h [name] _ _ hb
    rw [run_generate_single hr, run_generateClass ho,
      if_neg (not_or.mpr ⟨hdry, hkind⟩), hw] at hkept
    have hsize := congrArg ByteArray.size (Node.file.inj (Option.some.inj hkept))
    rw [ByteArray.size_push] at hsize
    omega
  · intro hd tree h names place bytes hb
    rw [run_generate]
    exact (kept_generateEach h ho hd names).files hb

theorem Generation.keeps_files_in_plain_folder :
    ({ outputFolder := "out", overwrite := false } : EmitSettings).overwrite = false ∧
    ∀ tree, Workspace.Sound ⟨tree, ["work"]⟩ → ∀ names place bytes,
      tree.get? place = some (.file bytes) →
      ((generate (m := Session) (fun _ => .ok ⟨"Keep", "", []⟩)
        { outputFolder := "out", overwrite := false } false names).run
          ⟨tree, ["work"]⟩).2.tree.get? place = some (.file bytes) := by
  refine ⟨rfl, (Generation.keeps_files_iff rfl).mpr (Or.inr ?_)⟩
  intro name c hr
  cases hr
  exact not_detour_of_not_up (by decide)

/-- The folder `new` is missing when the file is looked for, and there when it is written. -/
theorem Generation.overwrites_behind_missing_folder :
    Workspace.Sound ⟨⟨[(["keep.ts"], .file "keep me".toUTF8)]⟩, []⟩ ∧
    ((generate (m := Session) (fun _ => .ok ⟨"Keep", "", []⟩)
      { outputFolder := "new/..", overwrite := false } false ["Keep"]).run
        ⟨⟨[(["keep.ts"], .file "keep me".toUTF8)]⟩, []⟩).2.tree.get? ["keep.ts"] ≠
      some (.file "keep me".toUTF8) := by
  have hf : empty.get? [] = some .folder := rfl
  have hs : Workspace.Sound ⟨⟨[(["keep.ts"], .file "keep me".toUTF8)]⟩, []⟩ :=
    ⟨wellFormed_empty.set hf (Or.inl (by simp [FileTree.get?, empty])), rfl⟩
  have hp : ({ outputFolder := "new/..", overwrite := false } : EmitSettings).outputPath "Keep" =
      ⟨"new/../keep.ts"⟩ := by decide
  have hr : (⟨"Keep", "", []⟩ : Class).render { outputFolder := "new/..", overwrite := false } =
      "export class Keep \x7b\n\x7d\n" := by decide
  have hw : ∀ text, ((writeThrough (m := Session) ⟨"new/../keep.ts"⟩ text).run
      ⟨⟨[(["keep.ts"], .file "keep me".toUTF8)]⟩, []⟩).2.tree.get? ["keep.ts"] =
        some (.file text.toUTF8) :=
    fun text => rfl
  refine ⟨hs, ?_⟩
  rw [run_generate_single rfl, run_generateClass rfl, hp, hr, if_neg (by decide), hw]
  intro he
  have hb : "export class Keep \x7b\n\x7d\n".toUTF8 ≠ "keep me".toUTF8 := by decide
  exact hb (Node.file.inj (Option.some.inj he))

end

end ClassExport
