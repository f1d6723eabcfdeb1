import ClassExport.FileTree
import Mathlib.Data.List.Induction
import Mathlib.Data.List.Nodup
import Mathlib.Data.List.Perm.Basic

/-! What stands where in a file tree, and what every tree keeps. -/
namespace ClassExport.FileTree

variable {t : FileTree} {place other : Location} {node : Node}

theorem lookup_filter_ne {entries : List (Location × Node)} (h : other ≠ place) :
    (entries.filter (·.1 ≠ place)).lookup other = entries.lookup other := by
  induction entries with
  | nil => rfl
  | cons e entries ih =>
    by_cases he : e.1 = place
    · have hb : (other == e.1) = false := by simpa [he] using h
      rw [List.filter_cons_of_neg (by simpa using he), ih, List.lookup_cons, hb]
    · rw [List.filter_cons_of_pos (by simpa using he), List.lookup_cons, List.lookup_cons, ih]

theorem lookup_filter_self (entries : List (Location × Node)) :
    (entries.filter (·.1 ≠ place)).lookup place = none := by
  rw [List.lookup_eq_none_iff]
  intro e he
  have hn : e.1 ≠ place := of_decide_eq_true (List.mem_filter.mp he).2
  simpa using Ne.symm hn

theorem get?_set (hp : place ≠ []) :
    (t.set place node).get? other = if other = place then some node else t.get? other := by
  by_cases ho : other = []
  · subst ho
    rw [if_neg (Ne.symm hp)]
    rfl
  · simp only [get?, set, ho, if_false, List.lookup_append]
    by_cases he : other = place
    · subst he
      rw [lookup_filter_self, if_pos rfl]
      simp
    · have hb : (other == place) = false := by simpa using he
      rw [lookup_filter_ne he, if_neg he, List.lookup_cons, hb]
      simp

/-- Each location stands once, the root is not listed, and all that is there stands in a folder. -/
structure WellFormed (t : FileTree) : Prop where
  single : (t.entries.map Prod.fst).Nodup
  rooted : [] ∉ t.entries.map Prod.fst
  within : ∀ place name, t.get? (place ++ [name]) ≠ none → t.get? place = some .folder

theorem wellFormed_empty : empty.WellFormed :=
  ⟨List.nodup_nil, List.not_mem_nil, fun _ _ h => (h (by simp [get?, empty])).elim⟩

namespace WellFormed

variable (h : t.WellFormed)
include h

/-- Above what is there only folders stand. -/
theorem folder_of_prefix (hp : place <+: other) (hn : t.get? other ≠ none)
    (hne : place ≠ other) :
    t.get? place = some .folder := by
  obtain ⟨rest, rfl⟩ := hp
  induction rest generalizing place with
  | nil => simp at hne
  | cons name rest ih =>
    apply h.within place name
    rw [List.append_cons] at hn
    by_cases hr : rest = []
    · rwa [hr, List.append_nil] at hn
    · simp [ih hn (by simpa using hr)]

theorem folder_dropLast (hf : t.get? place = some .folder) :
    t.get? place.dropLast = some .folder := by
  by_cases he : place = []
  · subst he
    rfl
  · refine h.folder_of_prefix (List.dropLast_prefix place) (by simp [hf]) fun heq => he ?_
    have hl := congrArg List.length heq
    rw [List.length_dropLast] at hl
    exact List.eq_nil_of_length_eq_zero (by omega)

theorem set {name : String} (hp : t.get? place = some .folder)
    (hn : t.get? (place ++ [name]) ≠ some .folder ∨ node = .folder) :
    (t.set (place ++ [name]) node).WellFormed := by
  have hne : place ++ [name] ≠ [] := by simp
  refine ⟨?_, ?_, fun l s hl => ?_⟩
  · rw [FileTree.set, List.map_append, List.nodup_append]
    refine ⟨(h.single.sublist (List.filter_sublist.map _)), by simp, ?_⟩
    intro a ha b hb
    obtain ⟨e, he, rfl⟩ := List.mem_map.mp ha
    rw [List.mem_singleton.mp hb]
    simpa using (List.mem_filter.mp he).2
  · rw [FileTree.set, List.map_append, List.mem_append]
    rintro (hm | hm)
    · obtain ⟨e, he, hr⟩ := List.mem_map.mp hm
      exact h.rooted (List.mem_map.mpr ⟨e, (List.mem_filter.mp he).1, hr⟩)
    · simp at hm
  · rw [get?_set hne] at hl ⊢
    have hf : t.get? l = some .folder := by
      split at hl
      · rename_i he
        rw [(List.append_inj_left' he rfl)]
        exact hp
      · exact h.within l s hl
    split
    · rename_i he
      subst he
      obtain hn | hn := hn
      · exact (hn hf).elim
      · rw [hn]
    · exact hf

theorem get?_of_prefix (hp : place <+: other) (hn : t.get? other ≠ none) :
    t.get? place ≠ none := by
  by_cases he : place = other
  · rwa [he]
  · simp [h.folder_of_prefix hp hn he]

end WellFormed

/-- A folder and those above it can be put into any tree. -/
theorem exists_folder (h : t.WellFormed) (place : Location) : ∃ t' : FileTree, t'.WellFormed ∧
    ∀ l, t'.get? l = if l <+: place then some .folder else t.get? l := by
  induction place using List.reverseRecOn with
  | nil =>
    refine ⟨t, h, fun l => ?_⟩
    split
    · rename_i hl
      rw [List.prefix_nil.mp hl]
      rfl
    · rfl
  | append_singleton place name ih =>
    obtain ⟨t', h', hg⟩ := ih
    have hf : t'.get? place = some .folder := by rw [hg, if_pos List.prefix_rfl]
    refine ⟨t'.set (place ++ [name]) .folder, h'.set hf (Or.inr rfl), fun l => ?_⟩
    rw [get?_set (by simp), hg]
    simp only [List.prefix_concat_iff]
    by_cases hl : l = place ++ [name] <;> simp [hl]

/-! The entries of a tree, and the files that they list below a folder. -/

section

variable {base : Location} {entries : List (Location × Node)} {enter : String → Bool}
  {way : List String}

theorem lookup_eq_some_iff_mem (h : (entries.map Prod.fst).Nodup) :
    entries.lookup place = some node ↔ (place, node) ∈ entries := by
  induction entries with
  | nil => simp
  | cons e entries ih =>
    obtain ⟨hn, h⟩ := List.nodup_cons.mp h
    rw [List.lookup_cons, List.mem_cons]
    by_cases he : place = e.1
    · subst he
      have hm : (e.1, node) ∉ entries := fun hm => hn (List.mem_map.mpr ⟨_, hm, rfl⟩)
      simp [hm, Prod.ext_iff, eq_comm]
    · have hb : (place == e.1) = false := by simpa using he
      have hp : (place, node) ≠ e := fun hp => he (congrArg Prod.fst hp)
      rw [hb]
      simp [hp, ih h]

theorem WellFormed.mem_entries_iff (h : t.WellFormed) :
    (place, node) ∈ t.entries ↔ place ≠ [] ∧ t.get? place = some node := by
  rw [← lookup_eq_some_iff_mem h.single, get?]
  constructor
  · intro hl
    have hp : place ≠ [] := by
      rintro rfl
      exact h.rooted (List.mem_map.mpr ⟨_, (lookup_eq_some_iff_mem h.single).mp hl, rfl⟩)
    exact ⟨hp, by rw [if_neg hp, hl]⟩
  · rintro ⟨hp, hl⟩
    rwa [if_neg hp] at hl

/-- The order of the entries does not matter. -/
theorem WellFormed.get?_perm (h : t.WellFormed) (hp : entries.Perm t.entries) (place : Location) :
    get? ⟨entries⟩ place = t.get? place := by
  have hs : (entries.map Prod.fst).Nodup := (hp.map Prod.fst).nodup_iff.mpr h.single
  rw [get?, get?]
  congr 1
  ext node
  rw [lookup_eq_some_iff_mem hs, lookup_eq_some_iff_mem h.single, hp.mem_iff]

theorem WellFormed.perm (h : t.WellFormed) (hp : entries.Perm t.entries) :
    WellFormed ⟨entries⟩ := by
  refine ⟨(hp.map Prod.fst).nodup_iff.mpr h.single, fun hm =>
    h.rooted ((hp.map Prod.fst).mem_iff.mp hm), ?_⟩
  intro place name
  rw [h.get?_perm hp, h.get?_perm hp]
  exact h.within place name

theorem wayTo?_eq_some_iff :
    wayTo? enter base place = some way ↔ place = base ++ way ∧ ∀ folder ∈ way.dropLast,
      enter folder := by
  rw [wayTo?]
  constructor
  · intro h
    split at h
    · rename_i hp
      obtain ⟨rest, rfl⟩ := List.isPrefixOf_iff_prefix.mp hp
      rw [List.drop_left] at h
      dsimp only at h
      split at h
      · rename_i ha
        cases h
        exact ⟨rfl, List.all_eq_true.mp ha⟩
      · cases h
    · cases h
  · rintro ⟨rfl, ha⟩
    have hp : base.isPrefixOf (base ++ way) = true :=
      List.isPrefixOf_iff_prefix.mpr (List.prefix_append base way)
    rw [if_pos hp, List.drop_left, if_pos (List.all_eq_true.mpr ha)]

theorem WellFormed.mem_filesBelow (h : t.WellFormed) :
    way ∈ t.filesBelow enter base ↔
      (∃ bytes, t.get? (base ++ way) = some (.file bytes)) ∧ ∀ folder ∈ way.dropLast,
        enter folder := by
  rw [filesBelow, List.mem_filterMap]
  constructor
  · rintro ⟨⟨place, node⟩, hm, hw⟩
    cases node with
    | folder => cases hw
    | file bytes =>
      obtain ⟨rfl, ha⟩ := wayTo?_eq_some_iff.mp hw
      exact ⟨⟨bytes, (h.mem_entries_iff.mp hm).2⟩, ha⟩
  · rintro ⟨⟨bytes, hb⟩, ha⟩
    have hne : base ++ way ≠ [] := fun hn => by simp [hn, get?] at hb
    exact ⟨(base ++ way, .file bytes), h.mem_entries_iff.mpr ⟨hne, hb⟩,
      wayTo?_eq_some_iff.mpr ⟨rfl, ha⟩⟩

theorem WellFormed.nodup_filesBelow (h : t.WellFormed) (enter : String → Bool) (base : Location) :
    (t.filesBelow enter base).Nodup := by
  refine List.Pairwise.filterMap _ ?_ (List.pairwise_map.mp h.single)
  rintro ⟨place, node⟩ ⟨place', node'⟩ hne way hw way' hw' rfl
  cases node with
  | folder => cases hw
  | file bytes =>
    cases node' with
    | folder => cases hw'
    | file bytes' =>
      exact hne ((wayTo?_eq_some_iff.mp hw).1.trans (wayTo?_eq_some_iff.mp hw').1.symm)

end

end ClassExport.FileTree
