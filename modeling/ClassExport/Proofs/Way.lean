import ClassExport.Proofs.Tree

/-! Where the parts of a path lead, read off the names alone, and the folders made on the way. -/
namespace ClassExport.FileTree

variable {t : FileTree} {here place : Location} {part : String}
  {parts rest : List String} {node : Node}

/-- The place that a part leads to, whether or not anything is there. -/
def stepTo (here : Location) (part : String) : Location :=
  if part = "" || part = "." then here else if part = ".." then here.dropLast else here ++ [part]

def destination (here : Location) (parts : List String) : Location := parts.foldl stepTo here

/-- The places passed on the way, its start and its end among them. -/
def stops (here : Location) : List String → List Location
  | [] => [here]
  | part :: rest => here :: stops (stepTo here part) rest

/-- A way that can be gone: every stop is a folder, and no name is too long. -/
def Open (t : FileTree) (here : Location) (parts : List String) : Prop :=
  (∀ l ∈ stops here parts, t.get? l = some .folder) ∧ ∀ part ∈ parts,
    part.utf8ByteSize ≤ maxName

/-- Makes the folders that are missing on a way, up to the first that cannot be made. -/
def build (t : FileTree) (here : Location) : List String → FileTree × Bool
  | [] => (t, true)
  | part :: rest =>
    if isStep part then build t (stepTo here part) rest
    else if part.utf8ByteSize > maxName then (t, false)
    else match t.get? (here ++ [part]) with
      | some .folder => build t (here ++ [part]) rest
      | some (.file _) => (t, false)
      | none => build (t.set (here ++ [part]) .folder) (here ++ [part]) rest

@[simp] theorem destination_nil : destination here [] = here := rfl

@[simp] theorem destination_cons :
    destination here (part :: rest) = destination (stepTo here part) rest := rfl

theorem destination_append :
    destination here (parts ++ rest) = destination (destination here parts) rest :=
  List.foldl_append

theorem isStep_iff : isStep part = true ↔ part = "" ∨ part = "." ∨ part = ".." := by
  simp [isStep, or_assoc]

theorem stepTo_name (h : ¬ isStep part) : stepTo here part = here ++ [part] := by
  rw [isStep_iff, not_or, not_or] at h
  simp [stepTo, h]

theorem stepTo_eq_or (h : isStep part) :
    stepTo here part = here ∨ stepTo here part = here.dropLast := by
  obtain rfl | rfl | rfl := isStep_iff.mp h <;> simp [stepTo]

theorem size_le_of_isStep (h : isStep part) : part.utf8ByteSize ≤ maxName := by
  obtain rfl | rfl | rfl := isStep_iff.mp h <;> decide

theorem here_mem_stops (here : Location) (parts : List String) : here ∈ stops here parts := by
  cases parts <;> exact List.mem_cons_self

theorem destination_mem_stops (here : Location) (parts : List String) :
    destination here parts ∈ stops here parts := by
  induction parts generalizing here with
  | nil => exact List.mem_cons_self
  | cons part rest ih => exact List.mem_cons_of_mem _ (ih _)

theorem WellFormed.folder_stepTo (h : t.WellFormed) (hp : isStep part)
    (hf : t.get? here = some .folder) :
    t.get? (stepTo here part) = some .folder := by
  obtain he | he : stepTo here part = here ∨ stepTo here part = here.dropLast := stepTo_eq_or hp
  · rwa [he]
  · rw [he]
    exact h.folder_dropLast hf

/-! Following a way. -/

theorem follow_step (hf : t.get? here = some .folder) (hp : isStep part) :
    t.follow here (part :: rest) = t.follow (stepTo here part) rest := by
  simp only [follow, hf]
  obtain rfl | rfl | rfl := isStep_iff.mp hp <;> simp [stepTo]

theorem follow_name (hf : t.get? here = some .folder) (hp : ¬ isStep part) :
    t.follow here (part :: rest) =
      if part.utf8ByteSize > maxName then .error .nameTooLong
      else if (t.get? (here ++ [part])).isSome then t.follow (here ++ [part]) rest
        else .error .notFound := by
  rw [isStep_iff, not_or, not_or] at hp
  simp only [follow, hf]
  simp [hp]

theorem folder_of_follow_cons (h : t.follow here (part :: rest) = .ok place) :
    t.get? here = some .folder := by
  rw [follow] at h
  split at h
  · cases h
  · cases h
  · assumption

theorem open_cons : Open t here (part :: rest) ↔
    t.get? here = some .folder ∧ part.utf8ByteSize ≤ maxName ∧
      Open t (stepTo here part) rest := by
  simp only [Open, stops, List.forall_mem_cons]
  exact ⟨fun ⟨⟨h1, h2⟩, h3, h4⟩ => ⟨h1, h3, h2, h4⟩, fun ⟨h1, h3, h2, h4⟩ =>
    ⟨⟨h1, h2⟩, h3, h4⟩⟩

theorem Open.folder (h : Open t here parts) : t.get? here = some .folder :=
  h.1 _ (here_mem_stops here parts)

theorem open_nil : Open t here [] ↔ t.get? here = some .folder := by
  simp [Open, stops]

theorem open_append : Open t here (parts ++ rest) ↔ Open t here parts ∧
    Open t (destination here parts) rest := by
  induction parts generalizing here with
  | nil =>
    rw [open_nil, destination_nil, List.nil_append]
    exact ⟨fun h => ⟨h.folder, h⟩, fun h => h.2⟩
  | cons part parts ih =>
    rw [List.cons_append, open_cons, open_cons, ih, destination_cons]
    exact ⟨fun ⟨h1, h2, h3, h4⟩ => ⟨⟨h1, h2, h3⟩, h4⟩,
      fun ⟨⟨h1, h2, h3⟩, h4⟩ => ⟨h1, h2, h3, h4⟩⟩

theorem open_singleton : Open t here [part] ↔
    t.get? here = some .folder ∧ part.utf8ByteSize ≤ maxName ∧
      t.get? (stepTo here part) = some .folder := by
  rw [open_cons, open_nil]

theorem follow_eq_ok_iff :
    t.follow here parts = .ok place ∧ t.get? place = some .folder ↔
      Open t here parts ∧ place = destination here parts := by
  induction parts generalizing here with
  | nil =>
    simp only [follow, Except.ok.injEq, destination_nil]
    constructor
    · rintro ⟨rfl, hf⟩
      exact ⟨⟨by simpa [stops] using hf, by simp⟩, rfl⟩
    · rintro ⟨ho, rfl⟩
      exact ⟨rfl, ho.1 _ (here_mem_stops _ _)⟩
  | cons part rest ih =>
    rw [open_cons, destination_cons]
    constructor
    · rintro ⟨hr, hf⟩
      have hh := folder_of_follow_cons hr
      by_cases hp : isStep part
      · rw [follow_step hh hp] at hr
        obtain ⟨ho, hd⟩ := ih.mp ⟨hr, hf⟩
        exact ⟨⟨hh, size_le_of_isStep hp, ho⟩, hd⟩
      · rw [follow_name hh hp] at hr
        split at hr
        · cases hr
        · rename_i hs
          split at hr
          · rw [stepTo_name hp]
            obtain ⟨ho, hd⟩ := ih.mp ⟨hr, hf⟩
            exact ⟨⟨hh, by omega, ho⟩, hd⟩
          · cases hr
    · rintro ⟨⟨hh, hs, ho⟩, hd⟩
      by_cases hp : isStep part
      · rw [follow_step hh hp]
        exact ih.mpr ⟨ho, hd⟩
      · rw [stepTo_name hp] at ho hd
        have hn := ho.1 _ (here_mem_stops _ _)
        rw [follow_name hh hp, if_neg (by omega), hn]
        exact ih.mpr ⟨ho, hd⟩

/-! Making the folders of a way. -/

theorem build_step (hp : isStep part) :
    build t here (part :: rest) = build t (stepTo here part) rest := by
  rw [build, if_pos hp]

theorem build_long (hp : ¬ isStep part) (hs : maxName < part.utf8ByteSize) :
    build t here (part :: rest) = (t, false) := by
  rw [build, if_neg hp, if_pos hs]

theorem build_folder (hp : ¬ isStep part) (hs : part.utf8ByteSize ≤ maxName)
    (hf : t.get? (here ++ [part]) = some .folder) :
    build t here (part :: rest) = build t (stepTo here part) rest := by
  rw [build, if_neg hp, if_neg (by omega), hf, stepTo_name hp]

theorem build_file {bytes : ByteArray} (hp : ¬ isStep part)
    (hf : t.get? (here ++ [part]) = some (.file bytes)) :
    build t here (part :: rest) = (t, false) := by
  rw [build, if_neg hp, hf]
  split <;> rfl

theorem build_vacant (hp : ¬ isStep part) (hs : part.utf8ByteSize ≤ maxName)
    (hf : t.get? (here ++ [part]) = none) :
    build t here (part :: rest) =
      build (t.set (here ++ [part]) .folder) (stepTo here part) rest := by
  rw [build, if_neg hp, if_neg (by omega), hf, stepTo_name hp]

/-- What one part of a way makes of the tree, and where the way goes on. -/
inductive Built (t : FileTree) (here : Location) (part : String) (rest : List String) : Prop where
  | kept (hs : part.utf8ByteSize ≤ maxName) (hf : t.get? (stepTo here part) = some .folder)
      (he : build t here (part :: rest) = build t (stepTo here part) rest)
  | made (hs : part.utf8ByteSize ≤ maxName) (hp : ¬ isStep part)
      (hf : t.get? (here ++ [part]) = none)
      (he : build t here (part :: rest) =
        build (t.set (here ++ [part]) .folder) (stepTo here part) rest)
  | stopped (hp : ¬ isStep part)
      (hf : maxName < part.utf8ByteSize ∨ ∃ bytes, t.get? (here ++ [part]) = some (.file bytes))
      (he : build t here (part :: rest) = (t, false))

theorem WellFormed.built (h : t.WellFormed) (hf : t.get? here = some .folder) (part : String)
    (rest : List String) : Built t here part rest := by
  by_cases hp : isStep part
  · exact .kept (size_le_of_isStep hp) (h.folder_stepTo hp hf) (build_step hp)
  · by_cases hs : part.utf8ByteSize ≤ maxName
    · match hn : t.get? (here ++ [part]) with
      | none => exact .made hs hp hn (build_vacant hp hs hn)
      | some .folder => exact .kept hs (by rwa [stepTo_name hp]) (build_folder hp hs hn)
      | some (.file bytes) => exact .stopped hp (Or.inr ⟨bytes, hn⟩) (build_file hp hn)
    · exact .stopped hp (Or.inl (by omega)) (build_long hp (by omega))

theorem get?_make (hp : ¬ isStep part) :
    (t.set (here ++ [part]) .folder).get? (stepTo here part) = some .folder := by
  rw [stepTo_name hp, get?_set (by simp), if_pos rfl]

theorem WellFormed.make (h : t.WellFormed) (hf : t.get? here = some .folder) :
    (t.set (here ++ [part]) .folder).WellFormed := h.set hf (Or.inr rfl)

/-- The tree stays well formed, and the way that was made can be gone. -/
theorem build_wellFormed (h : t.WellFormed) (hf : t.get? here = some .folder) :
    (build t here parts).1.WellFormed := by
  induction parts generalizing t here with
  | nil => exact h
  | cons part rest ih =>
    cases h.built hf part rest with
    | kept hs hn he => rw [he]; exact ih h hn
    | made hs hp hn he => rw [he]; exact ih (h.make hf) (get?_make hp)
    | stopped hp hn he => rw [he]; exact h

theorem build_keeps (h : t.WellFormed) (hf : t.get? here = some .folder)
    (hl : t.get? place = some node) :
    (build t here parts).1.get? place = some node := by
  induction parts generalizing t here with
  | nil => exact hl
  | cons part rest ih =>
    cases h.built hf part rest with
    | kept hs hn he => rw [he]; exact ih h hn hl
    | made hs hp hn he =>
      rw [he]
      refine ih (h.make hf) (get?_make hp) ?_
      rw [get?_set (by simp), if_neg, hl]
      rintro rfl
      simp [hn] at hl
    | stopped hp hn he => rw [he]; exact hl

theorem open_of_build (h : t.WellFormed) (hf : t.get? here = some .folder)
    (hb : (build t here parts).2 = true) :
    Open (build t here parts).1 here parts := by
  induction parts generalizing t here with
  | nil => exact ⟨by simpa [stops, build] using hf, by simp⟩
  | cons part rest ih =>
    have hk : (build t here (part :: rest)).1.get? here = some .folder := build_keeps h hf hf
    rw [open_cons]
    refine ⟨hk, ?_⟩
    cases h.built hf part rest with
    | kept hs hn he =>
      rw [he] at hb ⊢
      exact ⟨hs, ih h hn hb⟩
    | made hs hp hn he =>
      rw [he] at hb ⊢
      exact ⟨hs, ih (h.make hf) (get?_make hp) hb⟩
    | stopped hp hn he => simp [he] at hb

/-- A way on which no file stands can be made. -/
theorem build_of_no_file (h : t.WellFormed) (hf : t.get? here = some .folder)
    (hs : ∀ part ∈ parts, part.utf8ByteSize ≤ maxName)
    (hn : ∀ l ∈ stops here parts, ∀ bytes, t.get? l ≠ some (.file bytes)) :
    (build t here parts).2 = true := by
  induction parts generalizing t here with
  | nil => rfl
  | cons part rest ih =>
    rw [List.forall_mem_cons] at hs
    have hr : ∀ l ∈ stops (stepTo here part) rest, ∀ bytes, t.get? l ≠ some (.file bytes) :=
      fun l hl => hn l (List.mem_cons_of_mem _ hl)
    cases h.built hf part rest with
    | kept _ hm he =>
      rw [he]
      exact ih h hm hs.2 hr
    | made _ hp hm he =>
      rw [he]
      refine ih (h.make hf) (get?_make hp) hs.2 fun l hl bytes hb => ?_
      rw [get?_set (by simp)] at hb
      split at hb
      · cases hb
      · exact hr l hl bytes hb
    | stopped hp hm he =>
      obtain hm | ⟨bytes, hm⟩ := hm
      · omega
      · refine (hr _ (here_mem_stops _ _) bytes ?_).elim
        rwa [stepTo_name hp]

theorem build_of_open (ho : Open t here parts) : build t here parts = (t, true) := by
  induction parts generalizing here with
  | nil => rfl
  | cons part rest ih =>
    obtain ⟨hf, hs, hr⟩ := open_cons.mp ho
    by_cases hp : isStep part
    · rw [build_step hp, ih hr]
    · have hn := hr.1 _ (here_mem_stops _ _)
      rw [stepTo_name hp] at hn
      rw [build_folder hp hs hn, ih hr]

theorem build_append : build t here (parts ++ rest) =
    if (build t here parts).2 then build (build t here parts).1 (destination here parts) rest
    else build t here parts := by
  induction parts generalizing t here with
  | nil => rfl
  | cons part parts ih =>
    rw [List.cons_append, destination_cons]
    by_cases hp : isStep part
    · rw [build_step hp, build_step hp, ih]
    · by_cases hs : part.utf8ByteSize ≤ maxName
      · match hn : t.get? (here ++ [part]) with
        | none => rw [build_vacant hp hs hn, build_vacant hp hs hn, ih]
        | some .folder => rw [build_folder hp hs hn, build_folder hp hs hn, ih]
        | some (.file bytes) =>
          rw [build_file hp hn, build_file hp hn]
          rfl
      · rw [build_long hp (by omega), build_long hp (by omega)]
        rfl

theorem build_append_step (hp : isStep part) :
    build t here (parts ++ [part]) = build t here parts := by
  rw [build_append, build_step hp, build]
  split
  · rename_i hb
    exact Prod.ext rfl hb.symm
  · rfl

end ClassExport.FileTree
