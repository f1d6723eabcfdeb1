import ClassExport.Proofs.Repetition

/-!
How far a path without `..` can be made, and what a write through it comes to, told by the files in
its way.
-/
namespace ClassExport

open FileTree Disk

namespace FileTree

variable {t t' : FileTree} {here base place l : Location} {p : Path} {part name : String}
  {init parts rest : List String}

def hasFileAt (t : FileTree) (l : Location) : Bool := (t.get? l).any fun node => node.kind = .file

/-- What stops the making of folders on a way: a name that is too long, or a file. -/
def obstacle (t : FileTree) (here : Location) : List String → Option DiskFault
  | [] => none
  | part :: rest =>
    if part.utf8ByteSize > maxName then some .nameTooLong
    else if t.hasFileAt (stepTo here part)
      then some (if rest.all isStep then .alreadyExists else .notADirectory)
    else obstacle t (stepTo here part) rest

/-- The stops that come before the obstacle. -/
def reached (t : FileTree) (here : Location) : List String → List Location
  | [] => [here]
  | part :: rest =>
    here :: if part.utf8ByteSize > maxName || t.hasFileAt (stepTo here part) then []
      else reached t (stepTo here part) rest

theorem hasFileAt_iff : t.hasFileAt l ↔ ∃ bytes, t.get? l = some (.file bytes) := by
  rw [hasFileAt]
  match t.get? l with
  | none => simp
  | some .folder => simp [Node.kind]
  | some (.file bytes) => simp [Node.kind]

theorem hasFileAt_of_folder (hf : t.get? l = some .folder) : t.hasFileAt l = false := by
  rw [hasFileAt, hf]
  rfl

theorem hasFileAt_of_none (hn : t.get? l = none) : t.hasFileAt l = false := by
  rw [hasFileAt, hn]
  rfl

theorem hasFileAt_set (hp : place ≠ []) (hn : t.get? place = none) :
    (t.set place .folder).hasFileAt l = t.hasFileAt l := by
  rw [hasFileAt, hasFileAt, get?_set hp]
  split
  · rename_i he
    rw [he, hn]
    rfl
  · rfl

theorem obstacle_long (hl : maxName < part.utf8ByteSize) :
    obstacle t here (part :: rest) = some .nameTooLong := by
  rw [obstacle, if_pos hl]

theorem obstacle_file (hs : part.utf8ByteSize ≤ maxName) (hf : t.hasFileAt (stepTo here part)) :
    obstacle t here (part :: rest) =
      some (if rest.all isStep then .alreadyExists else .notADirectory) := by
  rw [obstacle, if_neg (by omega), if_pos hf]

theorem obstacle_onward (hs : part.utf8ByteSize ≤ maxName)
    (hf : t.hasFileAt (stepTo here part) = false) :
    obstacle t here (part :: rest) = obstacle t (stepTo here part) rest := by
  rw [obstacle, if_neg (by omega), hf]
  rfl

theorem reached_onward (hs : part.utf8ByteSize ≤ maxName)
    (hf : t.hasFileAt (stepTo here part) = false) :
    reached t here (part :: rest) = here :: reached t (stepTo here part) rest := by
  rw [reached, hf, Bool.or_false, if_neg (by simpa using hs)]

theorem here_mem_reached (t : FileTree) (here : Location) (parts : List String) :
    here ∈ reached t here parts := by
  cases parts <;> exact List.mem_cons_self

theorem mem_stops_of_mem_reached (hl : l ∈ reached t here parts) : l ∈ stops here parts := by
  induction parts generalizing here with
  | nil => exact hl
  | cons part rest ih =>
    rw [reached] at hl
    obtain rfl | hl := List.mem_cons.mp hl
    · exact here_mem_stops _ _
    · split at hl
      · cases hl
      · exact List.mem_cons_of_mem _ (ih hl)

theorem hasFileAt_of_mem_reached (hh : t.hasFileAt here = false) (hl : l ∈ reached t here parts) :
    t.hasFileAt l = false := by
  induction parts generalizing here with
  | nil => rwa [List.mem_singleton.mp hl]
  | cons part rest ih =>
    rw [reached] at hl
    obtain rfl | hl := List.mem_cons.mp hl
    · exact hh
    · split at hl
      · cases hl
      · rename_i hn
        rw [Bool.or_eq_true, not_or] at hn
        exact ih (eq_false_of_ne_true hn.2) hl

/-- Only the files at the stops count. -/
theorem obstacle_congr (hs : ∀ l ∈ stops here parts, t'.hasFileAt l = t.hasFileAt l) :
    obstacle t' here parts = obstacle t here parts ∧
      reached t' here parts = reached t here parts := by
  induction parts generalizing here with
  | nil => exact ⟨rfl, rfl⟩
  | cons part rest ih =>
    rw [stops, List.forall_mem_cons] at hs
    have hn := hs.2 _ (here_mem_stops _ _)
    obtain ⟨ho, hr⟩ := ih hs.2
    rw [obstacle, obstacle, reached, reached, hn, ho, hr]
    exact ⟨rfl, rfl⟩

theorem get?_build (h : t.WellFormed) (hf : t.get? here = some .folder) :
    (build t here parts).1.get? l =
      if l ∈ reached t here parts then some .folder else t.get? l := by
  induction parts generalizing t here with
  | nil =>
    rw [build, reached]
    by_cases hl : l = here <;> simp [hl, hf]
  | cons part rest ih =>
    cases h.built hf part rest with
    | kept hs hn he =>
      rw [he, ih h hn, reached_onward hs (hasFileAt_of_folder hn)]
      by_cases hl : l = here <;> simp [hl, hf]
    | made hs hp hn he =>
      have hn' : t.get? (stepTo here part) = none := by rwa [stepTo_name hp]
      have hr : reached (t.set (here ++ [part]) .folder) (stepTo here part) rest =
          reached t (stepTo here part) rest :=
        (obstacle_congr fun l _ => hasFileAt_set (by simp) hn).2
      rw [he, ih (h.make hf) (get?_make hp), hr, reached_onward hs (hasFileAt_of_none hn'),
        get?_set (by simp), ← stepTo_name hp]
      have hmem := here_mem_reached t (stepTo here part) rest
      by_cases hl : l = here
      · simp [hl, hf]
      · by_cases he : l = stepTo here part
        · simp [he, hmem]
        · simp [hl, he]
    | stopped hp hn he =>
      have hr : reached t here (part :: rest) = [here] := by
        rw [reached, if_pos]
        rw [Bool.or_eq_true, decide_eq_true_eq, hasFileAt_iff, stepTo_name hp]
        exact hn
      rw [he, hr]
      by_cases hl : l = here <;> simp [hl, hf]

theorem hasFileAt_build (h : t.WellFormed) (hf : t.get? here = some .folder) :
    (build t here parts).1.hasFileAt l = t.hasFileAt l := by
  by_cases hl : l ∈ reached t here parts
  · rw [hasFileAt_of_mem_reached (hasFileAt_of_folder hf) hl, hasFileAt_of_folder]
    rw [get?_build h hf, if_pos hl]
  · rw [hasFileAt, get?_build h hf, if_neg hl, hasFileAt]

/-! What stands in the way, and what the attempt to follow the way tells of it. -/

theorem prefix_of_stop (hu : ".." ∉ parts) (hl : l ∈ stops here parts) : here <+: l := by
  induction parts generalizing here with
  | nil =>
    obtain rfl := List.mem_singleton.mp hl
    exact List.prefix_rfl
  | cons part rest ih =>
    rw [List.mem_cons, not_or] at hu
    obtain rfl | hl := List.mem_cons.mp hl
    · exact List.prefix_rfl
    · exact (prefix_stepTo (Ne.symm hu.1)).trans (ih hu.2 hl)

theorem obstacle_of_open (ho : Open t here parts) : obstacle t here parts = none := by
  induction parts generalizing here with
  | nil => rfl
  | cons part rest ih =>
    obtain ⟨-, hs, hr⟩ := open_cons.mp ho
    rw [obstacle_onward hs (hasFileAt_of_folder hr.folder), ih hr]

theorem obstacle_append (hn : ∀ l ∈ stops here parts, t.hasFileAt l = false) :
    obstacle t here (parts ++ rest) =
      (obstacle t here parts).or (obstacle t (destination here parts) rest) := by
  induction parts generalizing here with
  | nil => rfl
  | cons part parts ih =>
    rw [stops, List.forall_mem_cons] at hn
    have hf := hn.2 _ (here_mem_stops _ _)
    rw [List.cons_append]
    by_cases hs : part.utf8ByteSize ≤ maxName
    · rw [obstacle_onward hs hf, obstacle_onward hs hf, ih hn.2, destination_cons]
    · rw [obstacle_long (by omega), obstacle_long (by omega)]
      rfl

theorem stepTo_of_isIdle {absolute : Bool} (hi : Path.isIdle absolute name parts) :
    stepTo here name = here := by
  obtain rfl | ⟨rfl, -⟩ := Path.isIdle_iff.mp hi <;> rfl

theorem obstacle_append_idle {absolute : Bool} {xs : List String}
    (hi : Path.isIdle absolute name xs) (hh : t.hasFileAt here = false) :
    obstacle t here (parts ++ [name]) = obstacle t here parts := by
  have hstep := isStep_of_isIdle hi
  induction parts generalizing here with
  | nil =>
    have he : t.hasFileAt (stepTo here name) = false := by rwa [stepTo_of_isIdle hi]
    rw [List.nil_append, obstacle_onward (size_le_of_isStep hstep) he]
    rfl
  | cons part parts ih =>
    rw [List.cons_append]
    by_cases hs : part.utf8ByteSize ≤ maxName
    · cases hf : t.hasFileAt (stepTo here part) with
      | true =>
        rw [obstacle_file hs hf, obstacle_file hs hf, List.all_append, List.all_cons, hstep]; simp
      | false => rw [obstacle_onward hs hf, obstacle_onward hs hf, ih hf]
    · rw [obstacle_long (by omega), obstacle_long (by omega)]

/-- A way that cannot be gone ends before something that is missing, and then there is no file on
it, or at its obstacle. -/
inductive Followed (t : FileTree) (here : Location) (init : List String) (name : String) :
    Prop where
  | whole (ho : Open t here init)
  | missing (hr : t.follow here init = .error .notFound)
      (hn : ∀ l ∈ stops here init, t.hasFileAt l = false)
  | refused (fault : DiskFault) (hk : fault ≠ .notFound)
      (ho : obstacle t here (init ++ [name]) = some fault)
      (hr : t.follow here init = .error fault ∨ fault = .notADirectory ∧ ∃ place bytes,
        t.follow here init = .ok place ∧ t.get? place = some (.file bytes))

theorem WellFormed.followed (h : t.WellFormed) (hf : t.get? here = some .folder)
    (hu : ".." ∉ init) (hp : ¬ isStep name) : Followed t here init name := by
  induction init generalizing here with
  | nil => exact .whole (open_nil.mpr hf)
  | cons part rest ih =>
    rw [List.mem_cons, not_or] at hu
    have honward : part.utf8ByteSize ≤ maxName → t.get? (stepTo here part) = some .folder →
        t.follow here (part :: rest) = t.follow (stepTo here part) rest →
          Followed t here (part :: rest) name := by
      intro hs hn he
      cases ih hn hu.2 with
      | whole ho => exact .whole (open_cons.mpr ⟨hf, hs, ho⟩)
      | missing hr hno =>
        exact .missing (he.trans hr) (List.forall_mem_cons.mpr ⟨hasFileAt_of_folder hf, hno⟩)
      | refused fault hk ho hr =>
        refine .refused fault hk ?_ (he ▸ hr)
        rw [List.cons_append, obstacle_onward hs (hasFileAt_of_folder hn), ho]
    by_cases hstep : isStep part
    · exact honward (size_le_of_isStep hstep) (h.folder_stepTo hstep hf) (follow_step hf hstep)
    · by_cases hs : part.utf8ByteSize ≤ maxName
      · have hr : t.follow here (part :: rest) =
            if (t.get? (here ++ [part])).isSome then t.follow (here ++ [part]) rest
              else .error .notFound :=
          (follow_name hf hstep).trans (if_neg (by omega))
        cases hk : t.get? (here ++ [part]) with
        | none =>
          rw [hk] at hr
          refine .missing hr
            (List.forall_mem_cons.mpr ⟨hasFileAt_of_folder hf, fun l hl =>
              hasFileAt_of_none ?_⟩)
          rw [stepTo_name hstep] at hl
          by_contra hn
          exact h.get?_of_prefix (prefix_of_stop hu.2 hl) hn hk
        | some node =>
          rw [hk] at hr
          cases node with
          | folder =>
            rw [← stepTo_name hstep] at hk hr
            exact honward hs hk hr
          | file bytes =>
            have hfile : t.hasFileAt (stepTo here part) :=
              hasFileAt_iff.mpr ⟨bytes, by rwa [stepTo_name hstep]⟩
            refine .refused .notADirectory (by decide) ?_ ?_
            · rw [List.cons_append, obstacle_file hs hfile, List.all_append]
              simp [hp]
            · cases rest with
              | nil => exact Or.inr ⟨rfl, here ++ [part], bytes, hr, hk⟩
              | cons next rest =>
                refine Or.inl (hr.trans ?_)
                simp [follow, hk]
      · refine .refused .nameTooLong (by decide) (obstacle_long (by omega)) (Or.inl ?_)
        rw [follow_name hf hstep, if_pos (by omega)]

section

variable (hs : start here p = .ok (base, init ++ [name]))
include hs

theorem slot_of_missing (hr : t.follow base init = .error .notFound) :
    t.slot here p = .error .notFound := by
  simp only [slot, hs, bind, Except.bind, List.dropLast_concat, hr]

theorem slot_of_refused {fault : DiskFault}
    (hr : t.follow base init = .error fault ∨ fault = .notADirectory ∧
    ∃ place bytes, t.follow base init = .ok place ∧ t.get? place = some (.file bytes)) :
    t.slot here p = .error fault := by
  obtain hr | ⟨rfl, place, bytes, hr, hb⟩ := hr
  · simp only [slot, hs, bind, Except.bind, List.dropLast_concat, hr]
  · simp only [slot, hs, bind, Except.bind, List.dropLast_concat, hr, hb]

end

theorem target_eq_concat (hp : p.parts = init ++ [name]) (hn : ¬ isStep name) :
    target here p = destination (origin here p) init ++ [name] := by
  rw [target, hp, destination_append, destination_cons, stepTo_name hn, destination_nil]

/-- What refuses a file at the end of a way that can be gone. -/
def fileRefusal (t : FileTree) (here : Location) (p : Path) : Option DiskFault :=
  if hasNul p.text then some .nulInPath
  else if p.parts.getLast?.any (maxName < ·.utf8ByteSize) then some .nameTooLong
  else if (t.get? (target here p)).map Node.kind = some .folder then some .isADirectory
  else none

theorem writeFile_eq {text : String} (hp : p.parts = init ++ [name]) (hn : ¬ isStep name)
    (ho : Open t (origin here p) init) : t.writeFile here p text = match t.fileRefusal here p with
      | some fault => .error fault
      | none => .ok (t.set (target here p) (.file text.toUTF8)) := by
  rw [fileRefusal]
  by_cases hz : hasNul p.text
  · have hs : start here p = .error .nulInPath := start_of_nul hz
    rw [if_pos hz]
    simp only [writeFile, slot, hs, bind, Except.bind]
  · have hs : start here p = .ok (origin here p, init ++ [name]) :=
      hp ▸ start_eq_ok hz (text_ne_of_parts hp hn) here
    rw [if_neg hz, hp, List.getLast?_concat, Option.any_some]
    by_cases hl : maxName < name.utf8ByteSize
    · rw [if_pos (decide_eq_true hl)]
      simp only [writeFile, slot_of_long hs ho hn hl, bind, Except.bind]
    · rw [if_neg (by simpa using hl), target_eq_concat hp hn]
      by_cases hk : (t.get? (destination (origin here p) init ++ [name])).map Node.kind =
        some .folder
      · rw [if_pos hk]
        obtain ⟨node, hg, hk⟩ := Option.map_eq_some_iff.mp hk
        obtain rfl := Node.eq_folder_of_kind hk
        simp only [writeFile, slot_of_taken hs ho hn (by omega) hg, bind, Except.bind]
      · rw [if_neg hk]
        exact writeFile_of_open hs ho hn (by omega) fun hf => hk (by rw [hf]; rfl)

theorem makeFolder_of_slot_error {fault : DiskFault} (hk : t.slot here p = .error fault) :
    t.makeFolder here p = .error fault := by
  simp only [makeFolder, hk, bind, Except.bind]

end FileTree

/-! Making folders. -/

def resultOf : Option DiskFault → Except DiskFault Unit
  | none => .ok ()
  | some fault => .error fault

section

variable {w : Workspace} {base : Location} {p : Path} {name : String} {init parts : List String}
  {above : List Path} {fault : DiskFault}

theorem run_settle_of_open (hs : start w.folder p = .ok (base, parts))
    (ho : Open w.tree base parts) :
    (makeFolders.settle (m := Session) p (.error fault)).run w = (.ok (), w) := by
  simp only [makeFolders.settle, Session.run_bind, Session.run_isFolder, (isFolder_iff hs).mpr ho,
    decide_true, if_true]
  rfl

theorem run_settle_of_not_open (hs : start w.folder p = .ok (base, parts))
    (ho : ¬ Open w.tree base parts) :
    (makeFolders.settle (m := Session) p (.error fault)).run w = (.error fault, w) := by
  simp only [makeFolders.settle, Session.run_bind, Session.run_isFolder,
    mt (isFolder_iff hs).mp ho, decide_false]
  rfl

/-- The last folder of a way that can be gone. -/
theorem run_make_eq (h : w.tree.WellFormed) (hs : start w.folder p = .ok (base, init ++ [name]))
    (ho : Open w.tree base init) :
    ((do makeFolders.settle (m := Session) p (← Disk.makeFolder p)).run w).1 =
      resultOf (obstacle w.tree (destination base init) [name]) := by
  obtain ⟨hr, hf⟩ := follow_eq_ok_iff.mpr ⟨ho, rfl⟩
  rw [Session.run_bind, Session.run_makeFolder]
  by_cases hp : isStep name
  · have hstep := h.folder_stepTo hp hf
    have hlast : Open w.tree base (init ++ [name]) :=
      open_append.mpr ⟨ho, open_singleton.mpr ⟨hf, size_le_of_isStep hp, hstep⟩⟩
    have hm : w.tree.makeFolder w.folder p = .error .alreadyExists := by
      simp only [FileTree.makeFolder, slot_of_step hs ho hp, bind, Except.bind]
    rw [hm, obstacle_onward (size_le_of_isStep hp) (hasFileAt_of_folder hstep)]
    dsimp only
    rw [run_settle_of_open hs hlast]
    rfl
  · by_cases hl : name.utf8ByteSize ≤ maxName
    · cases hk : w.tree.get? (destination base init ++ [name]) with
      | none =>
        have hm : w.tree.makeFolder w.folder p =
            .ok (w.tree.set (destination base init ++ [name]) .folder) := by
          simp only [FileTree.makeFolder, slot_of_vacant hs ho hp hl hk, bind, Except.bind]
        rw [hm, obstacle_onward hl (hasFileAt_of_none (by rwa [stepTo_name hp]))]
        rfl
      | some node =>
        have hm : w.tree.makeFolder w.folder p = .error .alreadyExists := by
          simp only [FileTree.makeFolder, slot_of_taken hs ho hp hl hk, bind, Except.bind]
        rw [hm]
        dsimp only
        rw [← stepTo_name hp] at hk
        cases node with
        | folder =>
          rw [run_settle_of_open hs (open_append.mpr ⟨ho, open_singleton.mpr ⟨hf, hl, hk⟩⟩),
            obstacle_onward hl (hasFileAt_of_folder hk)]
          rfl
        | file bytes =>
          have hn : ¬ Open w.tree base (init ++ [name]) := by
            intro hn
            have hlast := (open_singleton.mp (open_append.mp hn).2).2.2
            rw [hk] at hlast
            cases hlast
          rw [run_settle_of_not_open hs hn, obstacle_file hl (hasFileAt_iff.mpr ⟨bytes, hk⟩)]
          rfl
    · have hm : w.tree.makeFolder w.folder p = .error .nameTooLong := by
        simp only [FileTree.makeFolder, slot_of_long hs ho hp (by omega), bind, Except.bind]
      have hn : ¬ Open w.tree base (init ++ [name]) := fun hn =>
        hl (open_singleton.mp (open_append.mp hn).2).2.1
      rw [hm, obstacle_long (by omega)]
      dsimp only
      rw [run_settle_of_not_open hs hn]
      rfl

/-- Where the way to a folder cannot be gone, either the folders above are made first, or something
refuses both. -/
theorem run_makeFolders_of_not_open (h : w.tree.WellFormed) (hf : w.tree.get? base = some .folder)
    (ht : p.text ≠ "") (hs : start w.folder p = .ok (base, init ++ [name])) (hu : ".." ∉ init)
    (hn : ¬ isStep name) (ho : ¬ Open w.tree base init) {r : Except DiskFault Unit}
    (hr : (makeFolders (m := Session) above).run w =
      (r, ⟨(build w.tree base init).1, w.folder⟩))
    (hb : r = .ok () ↔ (build w.tree base init).2 = true)
    (hobs : r = resultOf (obstacle w.tree base init)) :
    ((makeFolders (m := Session) (p :: above)).run w).1 =
      resultOf (obstacle w.tree base (init ++ [name])) := by
  cases h.followed hf hu hn with
  | whole ho' => exact (ho ho').elim
  | missing hmissing hno =>
    rw [run_makeFolders_of_missing ht (makeFolder_of_slot_error (slot_of_missing hs hmissing)), hr,
      obstacle_append hno]
    cases hfault : obstacle w.tree base init with
    | some fault =>
      obtain rfl : r = .error fault := hobs.trans (congrArg resultOf hfault)
      rfl
    | none =>
      obtain rfl : r = .ok () := hobs.trans (congrArg resultOf hfault)
      have hopen := open_of_build h hf (hb.mp rfl)
      dsimp only
      rw [run_make_eq (w := ⟨(build w.tree base init).1, w.folder⟩)
        (build_wellFormed h hf) hs hopen, (obstacle_congr fun l _ => hasFileAt_build h hf).1]
      rfl
  | refused fault hk hfault hrefused =>
    have hlast : ¬ Open w.tree base (init ++ [name]) := fun hlast => ho (open_append.mp hlast).1
    rw [run_makeFolders_of_error ht (makeFolder_of_slot_error (slot_of_refused hs hrefused)) hk,
      run_settle_of_not_open hs hlast, hfault]
    rfl

/-- What comes first on the way decides how the making of its folders ends. -/
theorem run_makeFolders_eq {absolute : Bool} {xs : List String} (h : w.tree.WellFormed)
    (hf : w.tree.get? w.folder = some .folder) (hl : Path.Spelled absolute xs.reverse)
    (hz : ∀ s ∈ xs.reverse, ¬ hasNul s) (hu : ".." ∉ xs.reverse) {n : Nat}
    (hn : (Path.dropIdle absolute xs).length < n) (hb : base = if absolute then [] else w.folder) :
    ((makeFolders (m := Session)
        (Path.ancestorsWithin n
          (Path.ofParts absolute (Path.dropIdle absolute xs).reverse))).run w).1 =
      resultOf (obstacle w.tree base xs.reverse) := by
  have hbf : w.tree.get? base = some .folder := by
    rw [hb]
    split
    · rfl
    · exact hf
  induction xs generalizing n with
  | nil =>
    obtain _ | n := n
    · omega
    cases absolute with
    | false => rfl
    | true =>
      have ho : Open w.tree base [] := open_nil.mpr hbf
      have hs : start w.folder ⟨"/"⟩ = .ok (base, [] ++ [""]) := by rw [hb]; rfl
      refine (congrArg Prod.fst (run_makeFolders_of_open h (by decide) hs ho)).trans
        ((run_make_eq h hs ho).trans ?_)
      rw [destination_nil, obstacle_onward (by decide) (hasFileAt_of_folder hbf)]
      rfl
  | cons s xs ih =>
    rw [List.reverse_cons] at hl hz hu ⊢
    rw [List.forall_mem_append] at hz
    rw [List.mem_append, not_or, List.mem_singleton] at hu
    by_cases hi : Path.isIdle absolute s xs
    · rw [Path.dropIdle_cons, if_pos hi] at hn ⊢
      rw [obstacle_append_idle hi (hasFileAt_of_folder hbf)]
      exact ih hl.of_append hz.1 hu.1 hn
    · rw [Path.dropIdle_cons, if_neg hi] at hn ⊢
      obtain _ | n := n
      · omega
      have ht := ofParts_text_ne hl hi
      have hs := start_ofParts hl (List.forall_mem_append.mpr hz) ht (by simp) w.folder
      rw [← hb] at hs
      rw [List.reverse_cons, Path.ancestorsWithin_succ n hl hi]
      have hd := (Path.dropIdle_suffix absolute xs).length_le
      rw [List.length_cons] at hn
      by_cases ho : Open w.tree base xs.reverse
      · have hno : ∀ l ∈ stops base xs.reverse, w.tree.hasFileAt l = false :=
          fun l hl => hasFileAt_of_folder (ho.1 l hl)
        rw [run_makeFolders_of_open h ht hs ho, run_make_eq h hs ho, obstacle_append hno,
          obstacle_of_open ho]
        rfl
      · -- a step that is not idle stands at the beginning
        have hstep : ¬ isStep s := by
          intro hstep
          rcases isStep_iff.mp hstep with rfl | rfl | rfl
          · exact hi (Path.isIdle_iff.mpr (Or.inl rfl))
          · have hx : xs = [] := by
              by_contra hx
              exact hi (Path.isIdle_iff.mpr (Or.inr ⟨rfl, Or.inr hx⟩))
            exact ho (hx ▸ open_nil.mpr hbf)
          · exact hu.2 rfl
        have hshort : (Path.dropIdle absolute xs).length < n := by omega
        obtain ⟨r, hr, hrb⟩ := run_makeFolders h hf hl.of_append hz.1 hshort hb
        have hrec := ih hl.of_append hz.1 hu.1 hshort
        rw [hr] at hrec
        exact run_makeFolders_of_not_open h hbf ht hs hu.1 hstep ho hr hrb hrec

theorem run_makeFolders_of_parts_eq (h : w.Sound) (hp : p.parts = init ++ [name])
    (hn : ¬ isStep name) (hz : ∀ s ∈ init, ¬ hasNul s) (hu : ".." ∉ init) :
    (makeFolders (m := Session) ((p.parent?.map Path.ancestors).getD [])).run w =
      (resultOf (obstacle w.tree (origin w.folder p) init),
        ⟨(build w.tree (origin w.folder p) init).1, w.folder⟩) := by
  obtain ⟨hl, hq⟩ := parent?_of_parts hp hn
  obtain ⟨r, hr, -⟩ := run_makeFolders_of_parts h hp hn hz
  obtain ⟨xs, rfl⟩ : ∃ xs, init = xs.reverse :=
    ⟨init.reverse, (List.reverse_reverse init).symm⟩
  rw [List.reverse_reverse] at hq
  rw [hq] at hr ⊢
  have he := run_makeFolders_eq (w := w) h.tree h.folder hl.of_append hz hu
    (Path.length_dropIdle_lt hl.of_append) rfl
  exact hr.trans (Prod.ext ((congrArg Prod.fst hr).symm.trans he) rfl)

end

/-! Writing. -/

namespace Workspace

variable {w v : Workspace} {p : Path} {name text : String} {init : List String} {l : Location}

/-- The first thing that refuses a write through a path. -/
def refusal (w : Workspace) (p : Path) : Option DiskFault :=
  if p.parts.dropLast.any hasNul then some .nulInPath
  else (obstacle w.tree (origin w.folder p) p.parts.dropLast).or (w.tree.fileRefusal w.folder p)

/-- The places at which there is a folder after a write through a path. -/
def opened (w : Workspace) (p : Path) : List Location :=
  if p.parts.dropLast.any hasNul then [] else reached w.tree (origin w.folder p) p.parts.dropLast

/-- What a write through a path puts at a place. -/
def left? (w : Workspace) (p : Path) (text : String) (l : Location) : Option Node :=
  if w.refusal p = none ∧ l = target w.folder p then some (.file text.toUTF8)
  else if l ∈ w.opened p then some .folder
  else none

theorem left?_of_refusal {fault : DiskFault} (hr : w.refusal p = some fault) :
    w.left? p text l = if l ∈ w.opened p then some .folder else none := by
  rw [left?, hr]
  exact if_neg fun h => nomatch h.1

theorem target_notMem_stops {here : Location} (hp : p.parts = init ++ [name]) (hn : ¬ isStep name)
    (hu : ".." ∉ init) :
    target here p ∉ stops (origin here p) init := by
  intro hm
  have hlen := (prefix_of_mem_stops hu hm).length_le
  rw [target_eq_concat hp hn, List.length_append, List.length_singleton] at hlen
  omega

theorem run_writeThrough_eq (h : w.Sound) (hp : p.parts = init ++ [name]) (hn : ¬ isStep name)
    (hu : ".." ∉ init) (text : String) :
    ((writeThrough (m := Session) p text).run w).1 = resultOf (w.refusal p) ∧
      ∀ l, ((writeThrough (m := Session) p text).run w).2.tree.get? l =
        (w.left? p text l).or (w.tree.get? l) := by
  have hdrop : p.parts.dropLast = init := by rw [hp, List.dropLast_concat]
  have hbase := folder_origin (p := p) h.folder
  by_cases hz : init.any hasNul
  · obtain ⟨s, hs, hs'⟩ := List.any_eq_true.mp hz
    have hr : w.refusal p = some .nulInPath := by rw [refusal, hdrop, if_pos hz]
    have ho : w.opened p = [] := by rw [opened, hdrop, if_pos hz]
    rw [writeThrough, Session.run_bind, run_makeFolders_of_nul hp hn ⟨s, hs, hs'⟩, hr]
    exact ⟨rfl, fun l => by rw [left?_of_refusal hr, ho]; rfl⟩
  · have hplain : ∀ s ∈ init, ¬ hasNul s :=
      fun s hs hs' => hz (List.any_eq_true.mpr ⟨s, hs, hs'⟩)
    have ho : w.opened p = reached w.tree (origin w.folder p) init := by
      rw [opened, hdrop, if_neg hz]
    have hm := run_makeFolders_of_parts_eq h hp hn hplain hu
    have hgrown : ∀ l, (build w.tree (origin w.folder p) init).1.get? l =
        (if l ∈ w.opened p then some Node.folder else none).or (w.tree.get? l) := by
      intro l
      rw [get?_build h.tree hbase, ho]
      split <;> rfl
    have hr : w.refusal p =
        (obstacle w.tree (origin w.folder p) init).or (w.tree.fileRefusal w.folder p) := by
      rw [refusal, hdrop, if_neg hz]
    rw [writeThrough, Session.run_bind, hm]
    cases hobs : obstacle w.tree (origin w.folder p) init with
    | some fault =>
      rw [hobs, Option.some_or] at hr
      rw [hr]
      exact ⟨rfl, fun l => by rw [left?_of_refusal hr, ← hgrown]; rfl⟩
    | none =>
      rw [hobs, Option.none_or] at hr
      have hopen : Open (build w.tree (origin w.folder p) init).1 (origin w.folder p) init := by
        obtain ⟨r, hr, hb⟩ := run_makeFolders_of_parts h hp hn hplain
        rw [hm, hobs] at hr
        exact open_of_build h.tree hbase (hb.mp (congrArg Prod.fst hr).symm)
      have hmem : target w.folder p ∉ w.opened p := fun hmem =>
        target_notMem_stops hp hn hu (mem_stops_of_mem_reached (ho ▸ hmem))
      have hsame : (build w.tree (origin w.folder p) init).1.fileRefusal w.folder p =
          w.refusal p := by
        rw [hr, fileRefusal, fileRefusal, hgrown, if_neg hmem, Option.none_or]
      dsimp only [resultOf]
      rw [Session.run_writeFile, writeFile_eq hp hn hopen, hsame]
      cases hf : w.refusal p with
      | some fault => exact ⟨rfl, fun l => by rw [left?_of_refusal hf, ← hgrown]⟩
      | none =>
        have hne : target w.folder p ≠ [] := by simp [target_eq_concat hp hn]
        refine ⟨rfl, fun l => ?_⟩
        dsimp only
        rw [get?_set hne, left?, hf, hgrown]
        by_cases hl : l = target w.folder p <;> simp [hl]

/-- A file at the end of a path without `..` is found when all names of the path can be told. -/
theorem hasFile_iff_of_parts (h : w.Sound) (hp : p.parts = init ++ [name]) (hn : ¬ isStep name)
    (hu : ".." ∉ init) :
    w.HasFile p ↔ ¬ hasNul p.text ∧ (∀ part ∈ p.parts, part.utf8ByteSize ≤ maxName) ∧
      w.tree.hasFileAt (target w.folder p) := by
  rw [hasFileAt_iff, target_eq_concat hp hn, hp, List.forall_mem_append, List.forall_mem_singleton]
  constructor
  · intro hk
    obtain ⟨_, _, ⟨_, hl⟩, -⟩ := hasFile_iff.mp hk
    have hs := (locate_eq_ok hl).1
    obtain ⟨hz, -, -⟩ := eq_of_start hs
    obtain ⟨ho, hsize, hb⟩ := (isFile_iff (hp ▸ hs) hn).mp hk
    exact ⟨hz, ⟨ho.2, hsize⟩, hb⟩
  · rintro ⟨hz, ⟨hshort, hsize⟩, bytes, hb⟩
    refine (isFile_iff (hp ▸ start_eq_ok hz (text_ne_of_parts hp hn) w.folder) hn).mpr
      ⟨⟨fun l hl => ?_, hshort⟩, hsize, bytes, hb⟩
    have hpre := prefix_of_mem_stops hu hl
    refine h.tree.folder_of_prefix (hpre.trans (List.prefix_append _ [name]))
      (by simp [hb]) fun he => ?_
    have hlen := hpre.length_le
    rw [he, List.length_append, List.length_singleton] at hlen
    omega

/-- The second workspace has files at the same stops of a path, and the same at its end. -/
structure SameWay (w v : Workspace) (p : Path) : Prop where
  folder : v.folder = w.folder
  files : ∀ l ∈ stops (origin w.folder p) p.parts.dropLast,
    v.tree.hasFileAt l = w.tree.hasFileAt l
  place : v.tree.get? (target w.folder p) = w.tree.get? (target w.folder p)

namespace SameWay

variable (hs : SameWay w v p)
include hs

theorem refusal_eq : v.refusal p = w.refusal p := by
  rw [refusal, refusal, fileRefusal, fileRefusal, hs.folder, (obstacle_congr hs.files).1, hs.place]

theorem left?_eq : v.left? p text l = w.left? p text l := by
  rw [left?, left?, hs.refusal_eq, opened, opened, hs.folder, (obstacle_congr hs.files).2]

theorem hasFile_iff (h : w.Sound) (hv : v.Sound) (hp : p.parts = init ++ [name])
    (hn : ¬ isStep name) (hu : ".." ∉ init) : v.HasFile p ↔ w.HasFile p := by
  rw [hasFile_iff_of_parts h hp hn hu, hasFile_iff_of_parts hv hp hn hu, hasFileAt, hasFileAt,
    hs.folder, hs.place]

end SameWay

end Workspace

end ClassExport
