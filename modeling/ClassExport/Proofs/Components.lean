import ClassExport.Proofs.PathParts
import Mathlib.Data.List.Basic
import Mathlib.Data.List.TakeDrop
import Mathlib.Data.List.TakeWhile
import Mathlib.Tactic.ByContra

/-!
The components of a path: of the path joined with a name, and of the paths above it; names and their
extensions.
-/
namespace ClassExport.Path

variable {absolute : Bool} {p q d : Path} {parts xs ys init names : List String}
  {name s stem ext : String}

/-- The parts that lead from where they stand to somewhere else. -/
def moves (parts : List String) : List String := parts.filter fun s => s ≠ "" ∧ s ≠ "."

def ofMove (s : String) : Component := if s = ".." then .up else .name s

/-- The components of a path that has these parts. -/
def componentsOf (absolute : Bool) (parts : List String) : List Component :=
  (if absolute then [.root] else if parts.head? = some "." then [.here] else []) ++
    (moves parts).map ofMove

theorem ofMove_name (h : s ≠ "..") : ofMove s = .name s := if_neg h

theorem ofMove_injective : Function.Injective ofMove := by
  intro a b h
  simp only [ofMove] at h
  split at h <;> split at h <;> simp_all

theorem ofMove_ne (s : String) : ofMove s ≠ .root ∧ ofMove s ≠ .here := by
  rw [ofMove]
  split <;> simp

@[simp] theorem moves_append : moves (parts ++ xs) = moves parts ++ moves xs :=
  List.filter_append ..

theorem moves_singleton (h : s ≠ "" ∧ s ≠ ".") : moves [s] = [s] := by
  simp [moves, h]

theorem namedComponents_eq (parts : List String) :
    namedComponents parts = (moves parts).map ofMove := by
  induction parts with
  | nil => rfl
  | cons s parts ih =>
    rw [namedComponents] at ih ⊢
    by_cases h : s = "" ∨ s = "."
    · obtain rfl | rfl := h <;> simpa [moves] using ih
    · rw [not_or] at h
      by_cases hu : s = ".."
      · simpa [moves, ofMove, hu] using ih
      · simpa [moves, ofMove, h, hu] using ih

theorem components_eq (p : Path) : p.components = componentsOf p.isAbsolute p.parts := by
  rw [components, componentsOf, namedComponents_eq]
  cases p.isAbsolute with
  | true => rfl
  | false =>
    simp only [Bool.false_eq_true, if_false]
    split <;> rfl

theorem parts_ne_nil (p : Path) : p.parts ≠ [] := by
  rw [parts, Ne, List.map_eq_nil_iff, Text.pieces_eq_splitOn]
  exact List.splitOn_ne_nil '/' _

/-! What a list of components tells of the path. -/

theorem root_mem_components : .root ∈ p.components ↔ p.isAbsolute = true := by
  have hm : ∀ s, ofMove s ≠ .root := fun s => (ofMove_ne s).1
  rw [components_eq, componentsOf]
  cases p.isAbsolute with
  | true => simp
  | false =>
    simp only [Bool.false_eq_true, if_false]
    split <;> simp [hm]

theorem filter_components :
    p.components.filter (fun c => c ≠ .root ∧ c ≠ .here) = (moves p.parts).map ofMove := by
  have hm : ((moves p.parts).map ofMove).filter (fun c => c ≠ .root ∧ c ≠ .here) =
      (moves p.parts).map ofMove := by
    rw [List.filter_eq_self]
    intro c hc
    obtain ⟨s, -, rfl⟩ := List.mem_map.mp hc
    simpa using ofMove_ne s
  rw [components_eq, componentsOf, List.filter_append, hm]
  cases p.isAbsolute with
  | true => rfl
  | false =>
    simp only [Bool.false_eq_true, if_false]
    split <;> rfl

/-- A path that goes on by names begins where the other one begins. -/
theorem moves_of_components_eq (h : q.components = p.components ++ names.map .name)
    (hn : ∀ s ∈ names, s ≠ "..") :
    q.isAbsolute = p.isAbsolute ∧ moves q.parts = moves p.parts ++ names := by
  have hmap : names.map Component.name = names.map ofMove :=
    List.map_congr_left fun s hs => (ofMove_name (hn s hs)).symm
  constructor
  · rw [Bool.eq_iff_iff, ← root_mem_components, ← root_mem_components, h]
    simp
  · apply ofMove_injective.list_map
    rw [List.map_append, ← filter_components, ← filter_components, h,
      List.filter_append, ← hmap]
    congr 1
    rw [List.filter_eq_self]
    simp

/-! A path joined with a name. -/

theorem ofParts_append (h : xs ≠ []) (h' : ys ≠ []) :
    (ofParts absolute (xs ++ ys)).text = (ofParts absolute xs).text ++ "/" ++
      "/".intercalate ys := by
  simp [ofParts, String.intercalate_append_of_ne_nil h h', String.append_assoc]

theorem ofParts_concat (h : xs ≠ []) :
    (ofParts absolute (xs ++ [name])).text = (ofParts absolute xs).text ++ "/" ++ name := by
  rw [ofParts_append h (by simp), String.intercalate_singleton]

theorem text_eq (p : Path) : p.text = (ofParts p.isAbsolute p.parts).text := by
  rw [ofParts_parts]

/-- What stands after the last slash. -/
theorem ofParts_concat_append :
    (ofParts absolute (xs ++ [s])).text ++ name = (ofParts absolute (xs ++ [s ++ name])).text := by
  by_cases h : xs = []
  · simp [ofParts, h, String.append_assoc]
  · simp only [ofParts_concat h, String.append_assoc]

theorem eq_empty_of_getLast? (hp : p.text ≠ "") (hparts : p.parts = init ++ [s])
    (hl : p.text.toList.getLast? = some '/') : s = "" := by
  by_contra hs
  have hn : s.toList ≠ [] := by simpa using hs
  have ht : p.text = (ofParts p.isAbsolute (init ++ [""])).text ++ s := by
    rw [ofParts_concat_append, String.empty_append, ← hparts, ofParts_parts]
  rw [ht, String.toList_append, List.getLast?_append_of_ne_nil _ hn] at hl
  exact (spelled_parts hp).plain s (by simp [hparts]) (List.mem_of_getLast? hl)

theorem Spelled.append (h : Spelled absolute xs) (hs : ∀ s ∈ ys, '/' ∉ s.toList)
    (hx : absolute = false → xs ≠ []) :
    Spelled absolute (xs ++ ys) := by
  refine ⟨fun r hr => (List.mem_append.mp hr).elim (h.plain r) (hs r), fun ha hh => ?_⟩
  rw [List.head?_append_of_ne_nil _ (hx ha)] at hh
  exact h.begins ha hh

theorem isAbsolute_of_noSlash (hs : '/' ∉ name.toList) : (Path.mk name).isAbsolute = false := by
  rw [isAbsolute, beq_eq_false_iff_ne]
  intro hh
  exact hs (List.mem_of_head? hh)

theorem parts_of_noSlash (hs : '/' ∉ name.toList) : (Path.mk name).parts = [name] := by
  have hsplit : name.toList.splitOn '/' = [name.toList] := List.splitOn_eq_singleton hs
  rw [parts, isAbsolute_of_noSlash hs, Text.pieces_eq_splitOn]
  simp [hsplit]

theorem text_of_relative (h : q.isAbsolute = false) : q.text = "/".intercalate q.parts := by
  have ht := text_eq q
  rwa [h, ofParts, if_neg (by simp), String.empty_append] at ht

/-- The parts of a path, up to a slash at its end: what another path is put after when it is
joined. -/
structure Joined (d : Path) (init : List String) : Prop where
  moves : moves init = moves d.parts
  head : d.isAbsolute = false → init ≠ [] ∧ init.head? = d.parts.head?
  spelled : Spelled d.isAbsolute init
  join : ∀ q : Path, q.isAbsolute = false → d.join q = ofParts d.isAbsolute (init ++ q.parts)

theorem exists_joined (hp : d.text ≠ "") : ∃ init, Joined d init := by
  have hl := spelled_parts hp
  by_cases he : d.text.toList.getLast? = some '/'
  · obtain ⟨init, s, hparts⟩ : ∃ init s, d.parts = init ++ [s] := by
      simpa using (List.eq_nil_or_concat d.parts).resolve_left (parts_ne_nil d)
    obtain rfl := eq_empty_of_getLast? hp hparts he
    have hi : d.isAbsolute = false → init ≠ [] := by
      rintro ha rfl
      exact hl.begins ha (by rw [hparts]; rfl)
    rw [hparts] at hl
    refine ⟨init, by simp [hparts, moves], fun ha => ⟨hi ha, ?_⟩,
      hl.of_append, fun q hq => ?_⟩
    · rw [hparts, List.head?_append_of_ne_nil _ (hi ha)]
    · rw [join, hq, if_neg (by simp), if_pos (by simp [he]), text_eq d, hparts,
        text_of_relative hq]
      have ht : (ofParts d.isAbsolute (init ++ [""])).text ++ "/".intercalate q.parts =
          (ofParts d.isAbsolute (init ++ q.parts)).text := by
        by_cases hne : init = []
        · simp [ofParts, hne]
        · rw [ofParts_append hne (parts_ne_nil q), ofParts_concat hne, String.append_empty]
      exact congrArg Path.mk ht
  · refine ⟨d.parts, rfl, fun _ => ⟨parts_ne_nil d, rfl⟩, hl, fun q hq => ?_⟩
    rw [join, hq, if_neg (by simp), if_neg (by simp [he, hp]), text_of_relative hq]
    have ht : d.text ++ "/" ++ "/".intercalate q.parts =
        (ofParts d.isAbsolute (d.parts ++ q.parts)).text := by
      rw [ofParts_append (parts_ne_nil d) (parts_ne_nil q), ofParts_parts]
    exact congrArg Path.mk ht

theorem Joined.parts_join (h : Joined d init) (hq : q.isAbsolute = false) :
    (d.join q).isAbsolute = d.isAbsolute ∧ (d.join q).parts = init ++ q.parts := by
  have hl : Spelled d.isAbsolute (init ++ q.parts) :=
    h.spelled.append (fun _ => noSlash_of_mem_parts) fun ha => (h.head ha).1
  have hne : init ++ q.parts ≠ [] := by simp [parts_ne_nil]
  rw [h.join q hq]
  exact ⟨isAbsolute_ofParts hl, parts_ofParts hl hne⟩

/-- The parts of a path joined with a name: the parts of the path, up to a slash at its end, and the
name. -/
structure JoinedParts (d : Path) (name : String) (init : List String) : Prop where
  absolute : (d.joinName name).isAbsolute = d.isAbsolute
  parts : (d.joinName name).parts = init ++ [name]
  moves : moves init = moves d.parts
  head : d.isAbsolute = false → init ≠ [] ∧ init.head? = d.parts.head?

theorem Joined.joinedParts (h : Joined d init) (hs : '/' ∉ name.toList) :
    JoinedParts d name init := by
  obtain ⟨ha, hp⟩ := h.parts_join (isAbsolute_of_noSlash hs)
  rw [parts_of_noSlash hs] at hp
  exact ⟨ha, hp, h.moves, h.head⟩

/-- The parts before the name do not depend on it. -/
theorem exists_init_joinedParts (hp : d.text ≠ "") :
    ∃ init, ∀ name, '/' ∉ name.toList → JoinedParts d name init :=
  (exists_joined hp).imp fun _ h _ => h.joinedParts

theorem exists_joinedParts (hp : d.text ≠ "") (hs : '/' ∉ name.toList) :
    ∃ init, JoinedParts d name init :=
  (exists_init_joinedParts hp).imp fun _ h => h name hs

theorem JoinedParts.components (h : JoinedParts d name init) (hn : name ≠ "" ∧ name ≠ ".") :
    (d.joinName name).components = d.components ++ [ofMove name] := by
  rw [components_eq, components_eq, h.absolute, h.parts, componentsOf, componentsOf, moves_append,
    moves_singleton hn, h.moves, List.map_append, List.append_assoc]
  cases ha : d.isAbsolute with
  | true => rfl
  | false =>
    obtain ⟨hi, hh⟩ := h.head ha
    rw [List.head?_append_of_ne_nil _ hi, hh]
    rfl

/-! The paths above a path. -/

theorem componentsOf_idle (hi : isIdle absolute s xs) :
    componentsOf absolute (xs.reverse ++ [s]) = componentsOf absolute xs.reverse := by
  have hm : moves [s] = [] := by
    obtain rfl | ⟨rfl, -⟩ := isIdle_iff.mp hi <;> rfl
  rw [componentsOf, componentsOf, moves_append, hm, List.append_nil]
  cases absolute with
  | true => rfl
  | false =>
    by_cases hx : xs = []
    · obtain rfl | ⟨rfl, hc⟩ := isIdle_iff.mp hi
      · simp [hx]
      · simp [hx] at hc
    · rw [List.head?_append_of_ne_nil _ (by simpa using hx)]

theorem componentsOf_dropIdle (absolute : Bool) (xs : List String) :
    componentsOf absolute (dropIdle absolute xs).reverse = componentsOf absolute xs.reverse := by
  induction xs with
  | nil => rfl
  | cons s xs ih =>
    rw [dropIdle_cons]
    split
    · rename_i hi
      rw [ih, List.reverse_cons, componentsOf_idle hi]
    · rfl

theorem componentsOf_not_idle (hi : ¬ isIdle absolute s xs) :
    componentsOf absolute xs.reverse = (componentsOf absolute (xs.reverse ++ [s])).dropLast := by
  rw [isIdle_iff, not_or, not_and_or, not_or, not_not] at hi
  obtain ⟨hs, hd⟩ := hi
  by_cases hdot : s = "."
  · obtain ⟨ha, rfl⟩ := hd.resolve_left (not_not.mpr hdot)
    simp [componentsOf, ha, hdot, moves]
  · rw [componentsOf, componentsOf, moves_append, moves_singleton ⟨hs, hdot⟩, List.map_append,
      ← List.append_assoc, List.map_singleton, List.dropLast_concat]
    cases absolute with
    | true => rfl
    | false =>
      by_cases hx : xs = []
      · simp [hx, hdot]
      · rw [List.head?_append_of_ne_nil _ (by simpa using hx)]

theorem not_isIdle_of_dropIdle (h : dropIdle absolute xs = s :: ys) : ¬ isIdle absolute s ys := by
  induction xs with
  | nil => cases h
  | cons x xs ih =>
    rw [dropIdle_cons] at h
    split at h
    · exact ih h
    · rename_i hi
      cases h
      exact hi

theorem components_ofParts (hl : Spelled absolute xs) :
    (ofParts absolute xs).components = componentsOf absolute xs := by
  by_cases hx : xs = []
  · subst hx
    cases absolute <;> rfl
  · rw [components_eq, isAbsolute_ofParts hl, parts_ofParts hl hx]

/-- The parent has the first parts of a path and all components but the last. -/
theorem parent?_eq_some (h : p.parent? = some q) :
    ∃ xs, xs <+: p.parts ∧ q = ofParts p.isAbsolute xs ∧
      q.components = p.components.dropLast := by
  have hp : p.text ≠ "" := by
    intro hp
    rw [show p = ⟨""⟩ from congrArg Path.mk hp] at h
    cases h
  rw [parent?] at h
  split at h
  · cases h
  · rename_i s rest hd
    obtain rfl := (Option.some.inj h).symm
    have hrest : rest.reverse ++ [s] <+: p.parts := by
      have hpre := List.reverse_prefix.mpr (dropIdle_suffix p.isAbsolute p.parts.reverse)
      rwa [hd, List.reverse_cons, List.reverse_reverse] at hpre
    have hxs : (dropIdle p.isAbsolute rest).reverse <+: p.parts :=
      ((List.reverse_prefix.mpr (dropIdle_suffix p.isAbsolute rest)).trans
        (List.prefix_append _ [s])).trans hrest
    obtain ⟨ys, hys⟩ := hxs
    refine ⟨_, ⟨ys, hys⟩, rfl, ?_⟩
    rw [components_ofParts (hys ▸ spelled_parts hp).of_append, componentsOf_dropIdle,
      componentsOf_not_idle (not_isIdle_of_dropIdle hd), ← List.reverse_cons, ← hd,
        componentsOf_dropIdle,
      List.reverse_reverse, components_eq]

theorem components_of_mem_ancestorsWithin {n : Nat} (hq : q ∈ ancestorsWithin n p) :
    q.components <+: p.components := by
  induction n generalizing p with
  | zero => cases hq
  | succ n ih =>
    rw [ancestorsWithin] at hq
    obtain rfl | hq := List.mem_cons.mp hq
    · exact List.prefix_rfl
    · split at hq
      · rename_i parent hp
        obtain ⟨-, -, -, hc⟩ := parent?_eq_some hp
        exact (hc ▸ ih hq).trans (List.dropLast_prefix _)
      · cases hq

theorem components_of_mem_above (hq : q ∈ p.ancestors.drop 1) :
    q.components <+: p.components.dropLast := by
  rw [ancestors, ancestorsWithin, List.drop_one, List.tail_cons] at hq
  split at hq
  · rename_i parent hp
    obtain ⟨-, -, -, hc⟩ := parent?_eq_some hp
    exact hc ▸ components_of_mem_ancestorsWithin hq
  · cases hq

theorem dropComponents?_isSome {bs cs : List Component} :
    (dropComponents? bs cs).isSome ↔ bs <+: cs := by
  induction bs generalizing cs with
  | nil => simp [dropComponents?]
  | cons b bs ih =>
    cases cs with
    | nil => simp [dropComponents?]
    | cons c cs =>
      rw [dropComponents?, List.cons_prefix_cons]
      split <;> simp_all

theorem isWithin_iff : p.isWithin q ↔ q.components <+: p.components := dropComponents?_isSome

/-! A name and its extension. -/

theorem cutExtension_eq_iff :
    cutExtension name = (stem, some ext) ↔ stem ≠ "" ∧ '.' ∉ ext.toList ∧
      name = stem ++ "." ++ ext := by
  rw [cutExtension, List.span_eq_takeWhile_dropWhile]
  dsimp only
  constructor
  · intro h
    split at h
    · cases h
    · cases h
    · rename_i c before hne hd
      simp only [Prod.mk.injEq, Option.some.injEq] at h
      obtain ⟨rfl, rfl⟩ := h
      have hc : c = '.' := by
        have hw : name.toList.reverse.dropWhile (· != '.') ≠ [] := by simp [hd]
        have hh := List.head_dropWhile_not (· != '.') hw
        simpa [hd] using hh
      have hcat := List.takeWhile_append_dropWhile (p := (· != '.')) (l := name.toList.reverse)
      rw [hd, hc] at hcat
      refine ⟨fun hs => hne ?_, fun hm => ?_, String.toList_injective ?_⟩
      · simpa using hs
      · rw [String.toList_ofList, List.mem_reverse] at hm
        simpa using List.mem_takeWhile_imp hm
      · simpa using congrArg List.reverse hcat.symm
  · rintro ⟨hs, hd, rfl⟩
    have hrev : (stem ++ "." ++ ext).toList.reverse = ext.toList.reverse ++
      '.' :: stem.toList.reverse := by simp
    have hp : ∀ c ∈ ext.toList.reverse, (c != '.') = true := by
      intro c hc
      rw [bne_iff_ne]
      rintro rfl
      exact hd (List.mem_reverse.mp hc)
    rw [hrev, List.takeWhile_append_of_pos hp, List.dropWhile_append_of_pos hp]
    have hr : stem.toList.reverse ≠ [] := by simpa using hs
    cases hc : stem.toList.reverse with
    | nil => exact (hr hc).elim
    | cons c cs => simp [← hc]

end ClassExport.Path
