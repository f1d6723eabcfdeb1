import ClassExport.Proofs.PathParts
import ClassExport.Proofs.Session
import ClassExport.Proofs.Way

/-! A path is written through by making the folders of its way and then the file at its end. -/
namespace ClassExport.FileTree

variable {t : FileTree} {here base place : Location} {p : Path} {name : String}
  {init parts : List String}

/-- The place where a path begins. -/
def origin (here : Location) (p : Path) : Location := if p.isAbsolute then [] else here

/-- The place that a path leads to, whether or not anything is there. -/
def target (here : Location) (p : Path) : Location := destination (origin here p) p.parts

def hasNul (s : String) : Bool := s.toList.contains '\x00'

theorem start_eq_ok (hz : ¬ hasNul p.text) (hp : p.text ≠ "") (here : Location) :
    start here p = .ok (origin here p, p.parts) := by
  rw [hasNul] at hz
  simp only [start, hz, hp, if_false, origin]
  rfl

theorem start_of_nul (hz : hasNul p.text) : start here p = .error .nulInPath := by
  rw [hasNul] at hz
  rw [start, if_pos hz]

theorem hasNul_ofParts (absolute : Bool) :
    hasNul (Path.ofParts absolute parts).text ↔ ∃ s ∈ parts, hasNul s := by
  have hc : '\x00' ≠ '/' := by decide
  have hm : '\x00' ∈ ['/'].intercalate (parts.map String.toList) ↔ ∃ s ∈ parts,
      '\x00' ∈ s.toList := by
    rw [Path.mem_intercalate_slash hc]
    constructor
    · rintro ⟨_, hl, hm⟩
      obtain ⟨s, hs, rfl⟩ := List.mem_map.mp hl
      exact ⟨s, hs, hm⟩
    · rintro ⟨s, hs, hm⟩
      exact ⟨_, List.mem_map_of_mem hs, hm⟩
  simp only [hasNul, List.contains_iff_mem, Path.ofParts_toList, List.mem_append, hm]
  cases absolute <;> simp

theorem isStep_of_isIdle {absolute : Bool} (hi : Path.isIdle absolute name parts) :
    isStep name := by
  obtain he | ⟨he, -⟩ := Path.isIdle_iff.mp hi <;> simp [isStep, he]

theorem start_ofParts {absolute : Bool} (hl : Path.Spelled absolute parts)
    (hz : ∀ s ∈ parts, ¬ hasNul s) (hp : (Path.ofParts absolute parts).text ≠ "")
    (hne : parts ≠ []) (here : Location) :
    start here (Path.ofParts absolute parts) = .ok (if absolute then [] else here, parts) := by
  have hn : ¬ hasNul (Path.ofParts absolute parts).text := by
    rw [hasNul_ofParts]
    rintro ⟨s, hs, hh⟩
    exact hz s hs hh
  rw [start_eq_ok hn hp, origin, Path.isAbsolute_ofParts hl, Path.parts_ofParts hl hne]

theorem follow_append :
    t.follow here (init ++ parts) = (t.follow here init).bind (t.follow · parts) := by
  induction init generalizing here with
  | nil => rfl
  | cons part init ih =>
    match hn : t.get? here with
    | none => simp [follow, hn, Except.bind]
    | some (.file _) => simp [follow, hn, Except.bind]
    | some .folder =>
      rw [List.cons_append]
      by_cases hp : isStep part
      · rw [follow_step hn hp, follow_step hn hp, ih]
      · rw [follow_name hn hp, follow_name hn hp, ih]
        split
        · rfl
        · split <;> rfl

/-! What stands in the way of a path also stands in the way of making it. -/

theorem build_of_follow_error {fault : DiskFault} (h : t.WellFormed)
    (hf : t.get? here = some .folder) (hr : t.follow here parts = .error fault)
    (hn : fault ≠ .notFound) : build t here parts = (t, false) := by
  induction parts generalizing here with
  | nil => cases hr
  | cons part rest ih =>
    by_cases hp : isStep part
    · rw [follow_step hf hp] at hr
      rw [build_step hp]
      exact ih (h.folder_stepTo hp hf) hr
    · rw [follow_name hf hp] at hr
      split at hr
      · exact build_long hp (by omega)
      · rename_i hs
        split at hr
        · match hk : t.get? (here ++ [part]) with
          | none => simp_all
          | some (.file _) => exact build_file hp hk
          | some .folder =>
            rw [build_folder hp (by omega) hk, stepTo_name hp]
            exact ih hk hr
        · exact (hn (Except.error.inj hr).symm).elim

theorem build_of_follow_file {bytes : ByteArray} (h : t.WellFormed)
    (hf : t.get? here = some .folder) (hr : t.follow here parts = .ok place)
    (hb : t.get? place = some (.file bytes)) :
    build t here parts = (t, false) := by
  induction parts generalizing here with
  | nil =>
    cases hr
    simp [hf] at hb
  | cons part rest ih =>
    by_cases hp : isStep part
    · rw [follow_step hf hp] at hr
      rw [build_step hp]
      exact ih (h.folder_stepTo hp hf) hr
    · rw [follow_name hf hp] at hr
      split at hr
      · cases hr
      · rename_i hs
        split at hr
        · match hk : t.get? (here ++ [part]) with
          | none => simp_all
          | some (.file _) => exact build_file hp hk
          | some .folder =>
            rw [build_folder hp (by omega) hk, stepTo_name hp]
            exact ih hk hr
        · cases hr

/-! Slots and kinds of paths. -/

section

variable (hs : start here p = .ok (base, init ++ [name]))
include hs

theorem slot_of_step (ho : Open t base init) (hp : isStep name) : t.slot here p = .ok .step := by
  obtain ⟨hr, hf⟩ := follow_eq_ok_iff.mpr ⟨ho, rfl⟩
  simp only [slot, hs, bind, Except.bind, List.dropLast_concat, hr, hf,
    List.getLast?_concat, hp, if_true]

theorem slot_of_long (ho : Open t base init) (hp : ¬ isStep name)
    (hl : maxName < name.utf8ByteSize) :
    t.slot here p = .error .nameTooLong := by
  obtain ⟨hr, hf⟩ := follow_eq_ok_iff.mpr ⟨ho, rfl⟩
  simp only [slot, hs, bind, Except.bind, List.dropLast_concat, hr, hf, List.getLast?_concat,
    hp, gt_iff_lt, hl, if_true]
  rfl

theorem slot_of_taken {node : Node} (ho : Open t base init) (hp : ¬ isStep name)
    (hl : name.utf8ByteSize ≤ maxName)
    (hk : t.get? (destination base init ++ [name]) = some node) :
    t.slot here p = .ok (.taken (destination base init ++ [name]) node) := by
  obtain ⟨hr, hf⟩ := follow_eq_ok_iff.mpr ⟨ho, rfl⟩
  simp only [slot, hs, bind, Except.bind, List.dropLast_concat, hr, hf,
    List.getLast?_concat, hp, gt_iff_lt, Nat.not_lt.mpr hl, if_false, hk]
  rfl

theorem slot_of_vacant (ho : Open t base init) (hp : ¬ isStep name)
    (hl : name.utf8ByteSize ≤ maxName) (hk : t.get? (destination base init ++ [name]) = none) :
    t.slot here p = .ok (.vacant (destination base init ++ [name])) := by
  obtain ⟨hr, hf⟩ := follow_eq_ok_iff.mpr ⟨ho, rfl⟩
  simp only [slot, hs, bind, Except.bind, List.dropLast_concat, hr, hf,
    List.getLast?_concat, hp, gt_iff_lt, Nat.not_lt.mpr hl, if_false, hk]
  rfl

theorem slot_of_not_open (h : t.WellFormed) (hf : t.get? base = some .folder)
    (ho : ¬ Open t base init) :
    ∃ fault, t.slot here p = .error fault ∧
      (fault ≠ .notFound → build t base init = (t, false)) := by
  simp only [slot, hs, bind, Except.bind, List.dropLast_concat, List.getLast?_concat]
  cases hr : t.follow base init with
  | error fault => exact ⟨fault, rfl, build_of_follow_error h hf hr⟩
  | ok place =>
    dsimp only
    cases hk : t.get? place with
    | none => exact ⟨.notFound, rfl, fun hn => (hn rfl).elim⟩
    | some node =>
      cases node with
      | file bytes => exact ⟨.notADirectory, rfl, fun _ => build_of_follow_file h hf hr hk⟩
      | folder => exact (ho (follow_eq_ok_iff.mp ⟨hr, hk⟩).1).elim

end

theorem locate_eq_ok_iff {node : Node} (hs : start here p = .ok (base, parts)) :
    t.locate here p = .ok (place, node) ↔ t.follow base parts = .ok place ∧
      t.get? place = some node := by
  simp only [locate, hs, bind, Except.bind]
  cases t.follow base parts with
  | error fault => simp
  | ok found =>
    dsimp only
    rw [Except.ok.injEq]
    constructor
    · intro hl
      split at hl
      · rename_i hk
        cases hl
        exact ⟨rfl, hk⟩
      · cases hl
    · rintro ⟨rfl, hk⟩
      simp only [hk]

theorem kind_eq_iff {kind : NodeKind} (hs : start here p = .ok (base, parts)) :
    (t.locate here p).toOption.map (·.2.kind) = some kind ↔
      ∃ place node, t.follow base parts = .ok place ∧ t.get? place = some node ∧
        node.kind = kind := by
  constructor
  · intro hk
    cases hl : t.locate here p with
    | error fault => simp [hl, Except.toOption] at hk
    | ok found =>
      obtain ⟨hr, hn⟩ := (locate_eq_ok_iff hs).mp hl
      exact ⟨found.1, found.2, hr, hn, by simpa [hl, Except.toOption] using hk⟩
  · rintro ⟨place, node, hr, hn, rfl⟩
    rw [(locate_eq_ok_iff hs).mpr ⟨hr, hn⟩]
    rfl

theorem isFolder_iff (hs : start here p = .ok (base, parts)) :
    (t.locate here p).toOption.map (·.2.kind) = some .folder ↔ Open t base parts := by
  rw [kind_eq_iff hs]
  constructor
  · rintro ⟨place, node, hr, hn, hk⟩
    cases node with
    | file bytes => cases hk
    | folder => exact (follow_eq_ok_iff.mp ⟨hr, hn⟩).1
  · intro ho
    obtain ⟨hr, hf⟩ := follow_eq_ok_iff.mpr ⟨ho, rfl⟩
    exact ⟨_, _, hr, hf, rfl⟩

theorem isFile_iff (hs : start here p = .ok (base, init ++ [name])) (hp : ¬ isStep name) :
    (t.locate here p).toOption.map (·.2.kind) = some .file ↔
      Open t base init ∧ name.utf8ByteSize ≤ maxName ∧
        ∃ bytes, t.get? (destination base init ++ [name]) = some (.file bytes) := by
  rw [kind_eq_iff hs]
  constructor
  · rintro ⟨place, node, hr, hn, hk⟩
    cases node with
    | folder => cases hk
    | file bytes =>
      rw [follow_append] at hr
      cases hi : t.follow base init with
      | error fault => simp [hi, Except.bind] at hr
      | ok found =>
        rw [hi] at hr
        have hf : t.get? found = some .folder := folder_of_follow_cons hr
        obtain ⟨ho, rfl⟩ := follow_eq_ok_iff.mp ⟨hi, hf⟩
        change t.follow _ [name] = _ at hr
        rw [follow_name hf hp] at hr
        split at hr
        · cases hr
        · split at hr
          · cases hr
            exact ⟨ho, by omega, bytes, hn⟩
          · cases hr
  · rintro ⟨ho, hl, bytes, hb⟩
    obtain ⟨hr, hf⟩ := follow_eq_ok_iff.mpr ⟨ho, rfl⟩
    refine ⟨destination base init ++ [name], .file bytes, ?_, hb, rfl⟩
    rw [follow_append, hr]
    change t.follow _ [name] = _
    rw [follow_name hf hp, if_neg (by omega), hb]
    rfl

/-! Making one folder. -/

/-- On an open way the folder is made, or the attempt is refused and the way tells whether the
folder is there. -/
theorem makeFolder_of_open (h : t.WellFormed) (hs : start here p = .ok (base, init ++ [name]))
    (ho : Open t base init) :
    t.makeFolder here p = .ok (build t (destination base init) [name]).1 ∧
        (build t (destination base init) [name]).2 = true ∨
      ∃ fault, fault ≠ .notFound ∧ t.makeFolder here p = .error fault ∧
        (build t (destination base init) [name]).1 = t ∧
        (Open t base (init ++ [name]) ↔ (build t (destination base init) [name]).2 = true) := by
  obtain ⟨hr, hf⟩ := follow_eq_ok_iff.mpr ⟨ho, rfl⟩
  rw [open_append, open_singleton]
  by_cases hp : isStep name
  · refine Or.inr ⟨.alreadyExists, by simp, ?_, ?_, ?_⟩
    · simp only [makeFolder, slot_of_step hs ho hp, bind, Except.bind]
    · rw [build_step hp, build]
    · rw [build_step hp, build]
      exact iff_of_true ⟨ho, hf, size_le_of_isStep hp, h.folder_stepTo hp hf⟩ rfl
  · by_cases hl : name.utf8ByteSize ≤ maxName
    · rw [stepTo_name hp]
      cases hk : t.get? (destination base init ++ [name]) with
      | none =>
        left
        rw [build_vacant hp hl hk, build]
        simp only [makeFolder, slot_of_vacant hs ho hp hl hk, bind, Except.bind, and_self]
      | some node =>
        refine Or.inr ⟨.alreadyExists, by simp, ?_, ?_⟩
        · simp only [makeFolder, slot_of_taken hs ho hp hl hk, bind, Except.bind]
        · cases node with
          | folder =>
            rw [build_folder hp hl hk, build]
            exact ⟨rfl, iff_of_true ⟨ho, hf, hl, rfl⟩ rfl⟩
          | file bytes =>
            rw [build_file hp hk]
            exact ⟨rfl, iff_of_false (by simp) (by simp)⟩
    · refine Or.inr ⟨.nameTooLong, by simp, ?_, ?_, ?_⟩
      · simp only [makeFolder, slot_of_long hs ho hp (by omega), bind, Except.bind]
      · rw [build_long hp (by omega)]
      · rw [build_long hp (by omega)]
        exact iff_of_false (fun ho => hl ho.2.2.1) (by simp)

theorem makeFolder_of_not_open (h : t.WellFormed) (hf : t.get? base = some .folder)
    (hs : start here p = .ok (base, init ++ [name])) (ho : ¬ Open t base init) :
    ∃ fault, t.makeFolder here p = .error fault ∧
      (fault ≠ .notFound → build t base init = (t, false)) := by
  obtain ⟨fault, hk, hb⟩ := slot_of_not_open hs h hf ho
  refine ⟨fault, ?_, hb⟩
  simp only [makeFolder, hk, bind, Except.bind]

section

open Disk

variable {w : Workspace} {above : List Path} {tree : FileTree} {fault : DiskFault}

theorem run_settle_error (hs : start w.folder p = .ok (base, parts)) (fault : DiskFault) :
    ∃ r, (makeFolders.settle (m := Session) p (.error fault)).run w = (r, w) ∧
      (r = .ok () ↔ Open w.tree base parts) := by
  refine ⟨if (w.tree.locate w.folder p).toOption.map (·.2.kind) = some .folder then .ok ()
    else .error fault, ?_, ?_⟩
  · simp only [makeFolders.settle, Session.run_bind, Session.run_isFolder, decide_eq_true_eq]
    rfl
  · rw [← isFolder_iff hs]
    split <;> simp_all

theorem run_makeFolders_of_ok (hp : p.text ≠ "") (hm : w.tree.makeFolder w.folder p = .ok tree) :
    (makeFolders (m := Session) (p :: above)).run w = (.ok (), { w with tree }) := by
  rw [makeFolders, if_neg hp, Session.run_bind, Session.run_makeFolder, hm]
  rfl

theorem run_makeFolders_of_error (hp : p.text ≠ "")
    (hm : w.tree.makeFolder w.folder p = .error fault) (hn : fault ≠ .notFound) :
    (makeFolders (m := Session) (p :: above)).run w =
      (makeFolders.settle (m := Session) p (.error fault)).run w := by
  rw [makeFolders, if_neg hp, Session.run_bind, Session.run_makeFolder, hm]
  cases fault <;> first | rfl | exact (hn rfl).elim

theorem run_makeFolders_of_missing (hp : p.text ≠ "")
    (hm : w.tree.makeFolder w.folder p = .error .notFound) :
    (makeFolders (m := Session) (p :: above)).run w =
      match (makeFolders (m := Session) above).run w with
      | (.error fault, w') => (.error fault, w')
      | (.ok (), w') =>
        (do makeFolders.settle (m := Session) p (← Disk.makeFolder p)).run w' := by
  rw [makeFolders, if_neg hp, Session.run_bind, Session.run_makeFolder, hm]
  dsimp only
  rw [Session.run_bind]
  obtain ⟨fault | _, w'⟩ := (makeFolders (m := Session) above).run w <;> rfl

/-- A folder whose way is open is there afterwards exactly when it can be made or is there. -/
theorem run_make_of_open (h : w.tree.WellFormed)
    (hs : start w.folder p = .ok (base, init ++ [name])) (ho : Open w.tree base init) :
    ∃ r, (do makeFolders.settle (m := Session) p (← Disk.makeFolder p)).run w =
        (r, ⟨(build w.tree (destination base init) [name]).1, w.folder⟩) ∧
      (r = .ok () ↔ (build w.tree (destination base init) [name]).2 = true) := by
  rw [Session.run_bind, Session.run_makeFolder]
  obtain ⟨hm, hb⟩ | ⟨fault, -, hm, ht, hb⟩ := makeFolder_of_open h hs ho
  · rw [hm]
    exact ⟨.ok (), rfl, iff_of_true rfl hb⟩
  · rw [hm, ht, ← hb]
    exact run_settle_error hs fault

theorem run_makeFolders_of_open (h : w.tree.WellFormed) (hp : p.text ≠ "")
    (hs : start w.folder p = .ok (base, init ++ [name])) (ho : Open w.tree base init) :
    (makeFolders (m := Session) (p :: above)).run w =
      (do makeFolders.settle (m := Session) p (← Disk.makeFolder p)).run w := by
  rw [Session.run_bind, Session.run_makeFolder]
  obtain ⟨hm, -⟩ | ⟨fault, hn, hm, -, -⟩ := makeFolder_of_open h hs ho
  · rw [hm, run_makeFolders_of_ok hp hm]
    rfl
  · rw [hm, run_makeFolders_of_error hp hm hn]

theorem ofParts_text_ne {absolute : Bool} {xs : List String}
    (hl : Path.Spelled absolute (xs.reverse ++ [name])) (hi : ¬ Path.isIdle absolute name xs) :
    (Path.ofParts absolute (xs.reverse ++ [name])).text ≠ "" := by
  intro he
  have ha := Path.isAbsolute_ofParts hl
  have hp := Path.parts_ofParts hl (by simp)
  rw [Path.isAbsolute, he] at ha
  rw [Path.parts, Path.isAbsolute, he] at hp
  have hx : xs.reverse ++ [name] = [] ++ [""] := hp.symm
  obtain ⟨-, hn⟩ := List.append_inj' hx rfl
  exact hi (by simp [Path.isIdle, List.head_eq_of_cons_eq hn])

/-- The folders of a path are made as `build` makes them; the run succeeds exactly when the whole
way is made. -/
theorem run_makeFolders {absolute : Bool} {xs : List String} (h : w.tree.WellFormed)
    (hf : w.tree.get? w.folder = some .folder) (hl : Path.Spelled absolute xs.reverse)
    (hz : ∀ s ∈ xs.reverse, ¬ hasNul s) {n : Nat} (hn : (Path.dropIdle absolute xs).length < n)
    (hb : base = if absolute then [] else w.folder) :
    ∃ r, (makeFolders (m := Session)
        (Path.ancestorsWithin n
          (Path.ofParts absolute (Path.dropIdle absolute xs).reverse))).run w =
          (r, ⟨(build w.tree base xs.reverse).1, w.folder⟩) ∧
      (r = .ok () ↔ (build w.tree base xs.reverse).2 = true) := by
  have hbf : w.tree.get? base = some .folder := by
    rw [hb]
    split
    · rfl
    · exact hf
  induction xs generalizing n with
  | nil =>
    obtain _ | n := n
    · omega
    cases absolute with
    | false => exact ⟨.ok (), rfl, iff_of_true rfl rfl⟩
    | true =>
      -- the root is refused by `makeFolder`, but it is there
      have ho : Open w.tree base [] := open_nil.mpr hbf
      have hs : start w.folder ⟨"/"⟩ = .ok (base, [] ++ [""]) := by rw [hb]; rfl
      obtain ⟨r, hr, hi⟩ := run_make_of_open h hs ho
      exact ⟨r, (run_makeFolders_of_open h (by decide) hs ho).trans hr, hi⟩
  | cons s xs ih =>
    rw [List.reverse_cons] at hl hz ⊢
    rw [List.forall_mem_append] at hz
    by_cases hi : Path.isIdle absolute s xs
    · rw [Path.dropIdle_cons, if_pos hi] at hn ⊢
      rw [build_append_step (isStep_of_isIdle hi)]
      exact ih hl.of_append hz.1 hn
    · rw [Path.dropIdle_cons, if_neg hi] at hn ⊢
      obtain _ | n := n
      · omega
      have ht := ofParts_text_ne hl hi
      have hs := start_ofParts hl (List.forall_mem_append.mpr hz) ht (by simp) w.folder
      rw [← hb] at hs
      rw [List.reverse_cons, Path.ancestorsWithin_succ n hl hi]
      have hd := (Path.dropIdle_suffix absolute xs).length_le
      rw [List.length_cons] at hn
      obtain ⟨r, hr, hrb⟩ :=
        ih hl.of_append hz.1 (show (Path.dropIdle absolute xs).length < n by omega)
      by_cases ho : Open w.tree base xs.reverse
      · rw [run_makeFolders_of_open h ht hs ho, build_append, build_of_open ho]
        exact run_make_of_open h hs ho
      · obtain ⟨fault, hm, hk⟩ := makeFolder_of_not_open h hbf hs ho
        by_cases hn : fault = .notFound
        · rw [run_makeFolders_of_missing ht (hn ▸ hm), hr, build_append]
          cases r with
          | error e =>
            have hb2 : ¬ (build w.tree base xs.reverse).2 = true := by
              intro hb2
              cases hrb.mpr hb2
            rw [if_neg hb2]
            exact ⟨.error e, rfl, hrb⟩
          | ok _ =>
            have hb2 := hrb.mp rfl
            rw [if_pos hb2]
            exact run_make_of_open (build_wellFormed h hbf) hs (open_of_build h hbf hb2)
        · obtain ⟨r, hr, hi⟩ := run_settle_error hs fault
          rw [run_makeFolders_of_error ht hm hn, build_append, hk hn]
          rw [open_append] at hi
          exact ⟨r, hr, hi.trans (iff_of_false (fun h => ho h.1) (by simp))⟩

end

end ClassExport.FileTree
