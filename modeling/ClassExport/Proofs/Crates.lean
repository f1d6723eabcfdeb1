import ClassExport.Proofs.Scanning
import Mathlib.Data.List.Forall2
import Mathlib.Data.List.Infix

/-!
The crate and the package of a source file, told from the names that lead to it and the manifests on
the way.
-/
namespace ClassExport

open FileTree Disk

variable {w : Workspace} {t : FileTree} {base : Location} {p q root root' : Path}
  {name s a b : String} {names way : List String}

namespace Path

variable {bs cs ds : List Component}

theorem dropComponents?_append (bs cs ds : List Component) :
    dropComponents? (bs ++ cs) (bs ++ ds) = dropComponents? cs ds := by
  induction bs with
  | nil => rfl
  | cons b bs ih =>
    rw [List.cons_append, List.cons_append, dropComponents?, if_pos rfl]
    exact ih

theorem relativeTo?_eq (h : p.components = q.components ++ cs) : p.relativeTo? q = some cs := by
  have hd := dropComponents?_append q.components [] cs
  rw [List.append_nil] at hd
  rw [relativeTo?, h, hd, dropComponents?]

theorem nameOf?_append (hc : cs ≠ []) : nameOf? (bs ++ cs) = nameOf? cs := by
  obtain ⟨d, ds, rfl⟩ := List.exists_cons_of_ne_nil hc
  induction bs with
  | nil => rfl
  | cons b bs ih =>
    obtain ⟨e, es, he⟩ := List.exists_cons_of_ne_nil (List.append_ne_nil_of_right_ne_nil bs hc)
    rw [List.cons_append, ← ih, he]
    cases b <;> rfl

theorem nameOf?_eq_some_iff : nameOf? cs = some s ↔ ∃ init, cs = init ++ [.name s] := by
  rcases List.eq_nil_or_concat cs with rfl | ⟨init, c, rfl⟩
  · simp [nameOf?]
  · rw [List.concat_eq_append, nameOf?_append (by simp)]
    cases c <;> simp [nameOf?]

/-- A path that ends in a name has a parent, which has the components before the name. -/
theorem exists_parent? (h : p.components = cs ++ [.name s]) :
    ∃ q, p.parent? = some q ∧ q.components = cs := by
  cases hq : p.parent? with
  | some q =>
    obtain ⟨-, -, -, hc⟩ := parent?_eq_some hq
    exact ⟨q, rfl, by rw [hc, h, List.dropLast_concat]⟩
  | none =>
    rw [parent?] at hq
    split at hq
    · rename_i hd
      have he := componentsOf_dropIdle p.isAbsolute p.parts.reverse
      rw [hd, List.reverse_reverse, ← components_eq, h] at he
      have hl := congrArg List.getLast? he
      cases ha : p.isAbsolute <;> simp [componentsOf, moves, ha] at hl
    · cases hq

/-- Names lead from a root to a path. -/
structure Reaches (root q : Path) (names : List String) : Prop where
  plain : ¬ hasNul q.text
  components : q.components = root.components ++ names.map .name

theorem takeWhile_ancestorsWithin_eq_nil {n : Nat} (hr : root.components ≠ [])
    (hq : q.components = root.components.dropLast) :
    (ancestorsWithin n q).takeWhile (fun r => r.isWithin root) = [] := by
  have hout : ¬ q.isWithin root := by
    intro hw
    have hl := (isWithin_iff.mp hw).length_le
    have hpos := List.length_pos_iff.mpr hr
    rw [hq, List.length_dropLast] at hl
    omega
  cases n with
  | zero => rfl
  | succ n =>
    rw [ancestorsWithin, List.takeWhile_cons_of_neg (p := fun r : Path => r.isWithin root) hout]

/-- The folders above a path that are the root or below it are those that fewer and fewer of the
names lead to. -/
theorem forall₂_takeWhile_ancestors {n : Nat} (hr : root.components ≠ [])
    (h : Reaches root p names) (hn : names.length < n) :
    List.Forall₂ (Reaches root) ((ancestorsWithin n p).takeWhile fun q => q.isWithin root)
      names.inits.reverse := by
  induction names using List.reverseRecOn generalizing n p with
  | nil =>
    obtain ⟨n, rfl⟩ := Nat.exists_eq_add_one_of_ne_zero (by omega : n ≠ 0)
    have hp : p.components = root.components := by simpa using h.components
    have hwithin : p.isWithin root := isWithin_iff.mpr (hp ▸ List.prefix_rfl)
    rw [ancestorsWithin, List.takeWhile_cons_of_pos (p := fun q : Path => q.isWithin root) hwithin]
    refine .cons h ?_
    cases hq : p.parent? with
    | none => exact .nil
    | some q =>
      obtain ⟨-, -, -, hc⟩ := parent?_eq_some hq
      dsimp only
      rw [takeWhile_ancestorsWithin_eq_nil hr (hc.trans (hp ▸ rfl))]
      exact .nil
  | append_singleton names s ih =>
    obtain ⟨n, rfl⟩ := Nat.exists_eq_add_one_of_ne_zero (by omega : n ≠ 0)
    have hwithin : p.isWithin root := isWithin_iff.mpr (h.components ▸ List.prefix_append _ _)
    have hp : p.components = root.components ++ names.map .name ++ [.name s] := by
      simpa using h.components
    obtain ⟨q, hq, hc⟩ := exists_parent? hp
    rw [List.length_append, List.length_singleton] at hn
    have hrest :=
      ih ⟨fun hz => h.plain (hasNul_of_parent? hq hz), hc⟩ (by omega : names.length < n)
    rw [ancestorsWithin, hq,
      List.takeWhile_cons_of_pos (p := fun q : Path => q.isWithin root) hwithin, List.inits_append,
        List.reverse_append]
    exact .cons h hrest

end Path

namespace Scan

theorem find?_of_forall₂ {α β : Type} {R : α → β → Prop} {f : α → Bool}
    {g : β → Bool} {l : List α} {m : List β} (h : List.Forall₂ R l m)
    (hfg : ∀ a, ∀ b ∈ m, R a b → f a = g b) :
    l.find? f = none ∧ m.find? g = none ∨ ∃ a, ∃ b ∈ m, l.find? f = some a ∧
      m.find? g = some b ∧ R a b := by
  induction h with
  | nil => exact Or.inl ⟨rfl, rfl⟩
  | @cons a b l m hr _ ih =>
    rw [List.find?_cons, List.find?_cons, hfg a b List.mem_cons_self hr]
    cases g b with
    | true => exact Or.inr ⟨a, b, List.mem_cons_self, rfl, rfl, hr⟩
    | false =>
      obtain hnone | ⟨a, b, hb, hsome⟩ := ih fun a b hb => hfg a b (List.mem_cons_of_mem _ hb)
      · exact Or.inl hnone
      · exact Or.inr ⟨a, b, List.mem_cons_of_mem _ hb, hsome⟩

theorem forall₂_foldersAbove (hr : root.text ≠ "") (hz : ¬ hasNul root.text)
    (hn : ∀ s ∈ names, PlainName s) (hs : PlainName name) :
    List.Forall₂ (Path.Reaches root) (foldersAbove root (pathTo root (names ++ [name])))
      names.inits.reverse := by
  have hall : ∀ s ∈ names ++ [name], PlainName s := by
    simpa [or_imp, forall_and] using And.intro hn hs
  have hplain : ¬ hasNul (pathTo root (names ++ [name])).text := Path.hasNul_foldl_joinName hz hall
  have hc : (pathTo root (names ++ [name])).components = root.components ++
      (names ++ [name]).map .name :=
    Path.components_foldl_joinName hr hall
  have hlen : names.length < (pathTo root (names ++ [name])).parts.length := by
    obtain ⟨-, hm⟩ := Path.moves_of_components_eq hc fun s hs => (hall s hs).ne_up
    have hle : (Path.moves (pathTo root (names ++ [name])).parts).length ≤ _ :=
      List.length_filter_le ..
    rw [hm] at hle
    simp only [List.length_append, List.length_singleton] at hle
    omega
  have hlast : (pathTo root (names ++ [name])).components = root.components ++ names.map .name ++
      [.name name] := by
    simpa using hc
  obtain ⟨q, hq, hqc⟩ := Path.exists_parent? hlast
  rw [foldersAbove, Path.ancestors, Path.ancestorsWithin, hq]
  exact Path.forall₂_takeWhile_ancestors (Path.components_ne_nil hr)
    ⟨fun hh => hplain (Path.hasNul_of_parent? hq hh), hqc⟩ hlen

/-- The names that lead to the nearest folder with a manifest. -/
def crateAt? (t : FileTree) (base : Location) (names : List String) : Option (List String) :=
  names.inits.reverse.find? fun inner => (t.content? (base ++ inner ++ [manifestName])).isSome

/-- The name that a manifest gives to its package. -/
def declaredName? (manifest : Option ByteArray) : Option String :=
  manifest.bind fun bytes => (textOf bytes).toOption.bind packageName?

/-- The name of a crate, by its manifest or else by its folder. -/
def crateTitle (manifest : Option ByteArray) (folder : String) : String :=
  Text.snakeCase ((declaredName? manifest).getD folder)

/-- The names below the sources of a crate, or else below the crate. -/
def belowSources (names : List String) : List String :=
  if names.head? = some "src" then names.tail else names

/-- The package of the file that names lead to from a folder, which has the name `title`. -/
def packageBelow (t : FileTree) (base : Location) (title : String) (way : List String) : String :=
  let segments := match crateAt? t base way.dropLast with
    | some inner =>
      crateTitle (t.content? (base ++ inner ++ [manifestName])) (inner.getLast?.getD title) ::
        moduleNames ((belowSources (way.drop inner.length)).map .name)
    | none => moduleNames (way.map .name)
  ".".intercalate (segments.filter (· ≠ ""))

/-- The folder itself is the crate, and gives it its name: its manifest names no package. -/
def NamedByFolder (t : FileTree) (base : Location) (names : List String) : Prop :=
  crateAt? t base names = some [] ∧ declaredName? (t.content? (base ++ [manifestName])) = none

theorem intercalate_cons_ne (hs : s ≠ "") (l : List String) :
    ".".intercalate (s :: l) ≠ ".".intercalate l := by
  intro he
  have hlen := congrArg String.length he
  cases l with
  | nil => simp [hs] at hlen
  | cons r l =>
    rw [String.intercalate_cons_cons] at hlen
    simp at hlen

theorem intercalate_cons_inj {l : List String} :
    ".".intercalate (a :: l) = ".".intercalate (b :: l) ↔ a = b := by
  refine ⟨fun h => ?_, fun h => by rw [h]⟩
  cases l with
  | nil => simpa using h
  | cons r l =>
    rw [String.intercalate_cons_cons, String.intercalate_cons_cons] at h
    simpa using h

/-- A first segment can be told from the whole, even when it is left out for being empty. -/
theorem joined_cons_inj {l : List String} :
    ".".intercalate ((a :: l).filter (· ≠ "")) =
      ".".intercalate ((b :: l).filter (· ≠ "")) ↔ a = b := by
  by_cases ha : a = "" <;> by_cases hb : b = ""
  · simp [ha, hb]
  · rw [List.filter_cons_of_neg (by simpa using ha), List.filter_cons_of_pos (by simpa using hb)]
    exact ⟨fun h => (intercalate_cons_ne hb _ h.symm).elim, fun h => (hb (h ▸ ha)).elim⟩
  · rw [List.filter_cons_of_pos (by simpa using ha), List.filter_cons_of_neg (by simpa using hb)]
    exact ⟨fun h => (intercalate_cons_ne ha _ h).elim, fun h => (ha (h ▸ hb)).elim⟩
  · rw [List.filter_cons_of_pos (by simpa using ha), List.filter_cons_of_pos (by simpa using hb)]
    exact intercalate_cons_inj

/-- The name of the folder that is scanned shows where that folder gives the crate its name. -/
theorem packageBelow_eq_iff : packageBelow t base a way = packageBelow t base b way ↔
    (NamedByFolder t base way.dropLast → Text.snakeCase a = Text.snakeCase b) := by
  rw [packageBelow, packageBelow, NamedByFolder]
  cases hc : crateAt? t base way.dropLast with
  | none => simp
  | some inner =>
    dsimp only
    rw [joined_cons_inj, crateTitle, crateTitle]
    rcases List.eq_nil_or_concat inner with rfl | ⟨init, s, rfl⟩
    · rw [List.append_nil]
      cases declaredName? (t.content? (base ++ [manifestName])) <;> simp
    · simp

theorem fileName?_of_reaches (h : Path.Reaches root q names) :
    q.fileName?.getD "" = names.getLast?.getD (root.fileName?.getD "") := by
  rw [Path.fileName?, h.components]
  rcases List.eq_nil_or_concat names with rfl | ⟨init, s, rfl⟩
  · rw [List.map_nil, List.append_nil]
    rfl
  · have hs : root.components ++ (init ++ [s]).map .name = (root.components ++ init.map .name) ++
      [.name s] := by simp
    rw [List.concat_eq_append, hs, Path.nameOf?_eq_some_iff.mpr ⟨_, rfl⟩, List.getLast?_concat]
    rfl

theorem plainName_src : PlainName "src" := ⟨by decide, by decide, by decide, by decide⟩

theorem belowCrate_of_reaches (hr : root.text ≠ "") (h : Path.Reaches root q names)
    {rest : List String} (hp : p.components = root.components ++ (names ++ rest).map .name) :
    belowCrate q p = (belowSources rest).map .name := by
  have hq : q.text ≠ "" := Path.text_ne_of_components hr (h.components ▸ List.prefix_append _ _)
  have hc : p.components = q.components ++ rest.map .name := by simpa [h.components] using hp
  have hsrc : (q.joinName "src").components = q.components ++ [.name "src"] :=
    Path.components_joinName hq plainName_src
  rw [belowCrate, Path.relativeTo?, hsrc, hc, Path.dropComponents?_append,
    Path.relativeTo?_eq hc, belowSources]
  cases rest with
  | nil => rfl
  | cons s rest =>
    by_cases hs : s = "src"
    · simp [Path.dropComponents?, hs]
    · simp [Path.dropComponents?, hs, Ne.symm hs]

/-- What the package of a file is made of lies below the folder that is scanned, but for the name of
that folder. -/
theorem packageFrom_eq (h : Scannable w root base) (ha : Placed w.tree base names name) :
    packageFrom (manifest? w) root (pathTo root (names ++ [name])) =
      packageBelow w.tree base (root.fileName?.getD "") (names ++ [name]) := by
  have hall : ∀ s ∈ names ++ [name], PlainName s := by
    simpa [or_imp, forall_and] using And.intro ha.plain ha.last
  have hc : (pathTo root (names ++ [name])).components = root.components ++
      (names ++ [name]).map .name :=
    Path.components_foldl_joinName h.opens.text hall
  have hread : ∀ q, ∀ inner ∈ names.inits.reverse, Path.Reaches root q inner →
      manifest? w q = w.tree.content? (base ++ inner ++ [manifestName]) := by
    intro q inner hi hq
    have hi : inner <+: names := (List.mem_inits _ _).mp (List.mem_reverse.mp hi)
    exact h.opens.toOption_readFile h.tree hq.components hq.plain (fun s hs =>
      ha.plain s (hi.subset hs))
      (ha.folder inner hi) plainName_manifest
  have hisSome : ∀ q, ∀ inner ∈ names.inits.reverse, Path.Reaches root q inner →
      (manifest? w q).isSome = (w.tree.content? (base ++ inner ++ [manifestName])).isSome :=
    fun q inner hi hq => by rw [hread q inner hi hq]
  rw [packageFrom, packageBelow, crateAt?, List.dropLast_concat]
  obtain ⟨hnone, hnone'⟩ | ⟨q, inner, hi, hsome, hsome', hq⟩ :=
    find?_of_forall₂ (forall₂_foldersAbove h.opens.text h.opens.plain ha.plain ha.last) hisSome
  · rw [hnone, hnone', Path.relativeTo?_eq hc]
    rfl
  · obtain ⟨rest, hrest⟩ : inner <+: names := (List.mem_inits _ _).mp (List.mem_reverse.mp hi)
    have hbelow : belowCrate q (pathTo root (names ++ [name])) =
        (belowSources ((names ++ [name]).drop inner.length)).map .name := by
      refine belowCrate_of_reaches h.opens.text hq ?_
      rw [← hrest, List.append_assoc, List.drop_left, ← List.append_assoc, hrest]
      exact hc
    rw [hsome, hsome']
    dsimp only
    rw [hbelow, hread q inner hi hq, crateNameFrom, fileName?_of_reaches hq]
    rfl

theorem packageAt_eq (h : Scannable w root base) (hf : SourceAt w.tree base way) :
    packageAt w root way = packageBelow w.tree base (root.fileName?.getD "") way := by
  obtain ⟨names, name, rfl⟩ := hf.exists_eq
  rw [packageAt, run_packageOf, ← packageFrom_eq h (hf.approach h).toPlaced]

/-- The package of a file from two roots that lead to one folder. -/
theorem packageAt_eq_iff (h : Scannable w root base) (h' : Scannable w root' base)
    (hf : SourceAt w.tree base way) :
    packageAt w root way = packageAt w root' way ↔
      (NamedByFolder w.tree base way.dropLast →
        Text.snakeCase (root.fileName?.getD "") = Text.snakeCase (root'.fileName?.getD "")) := by
  rw [packageAt_eq h hf, packageAt_eq h' hf, packageBelow_eq_iff]

end Scan

/-! The name at the end of a path. -/

/-- A path that ends in a name ends in that of the folder it leads to. -/
theorem Workspace.Opens.getLast?_of_fileName? (h : w.Opens root base)
    (hs : root.fileName? = some s) :
    base.getLast? = some s := by
  obtain ⟨init, hc⟩ := Path.nameOf?_eq_some_iff.mp hs
  have hf := Path.filter_components (p := root)
  rw [hc, List.filter_append, List.filter_cons_of_pos (by simp), List.filter_nil] at hf
  rcases List.eq_nil_or_concat (Path.moves root.parts) with hm | ⟨before, m, hm⟩
  · simp [hm] at hf
  · rw [List.concat_eq_append] at hm
    rw [hm, List.map_append] at hf
    have hlast : Path.ofMove m = .name s := by simpa using (List.append_inj_right' hf rfl).symm
    obtain ⟨hup, rfl⟩ : m ≠ ".." ∧ m = s := by
      rw [Path.ofMove] at hlast
      split at hlast
      · cases hlast
      · rename_i hup
        exact ⟨hup, Path.Component.name.inj hlast⟩
    have hmoves : m ∈ Path.moves root.parts := by simp [hm]
    have hstep : ¬ isStep m := by
      have hne := of_decide_eq_true (List.mem_filter.mp hmoves).2
      rw [isStep_iff]
      tauto
    rw [h.base, target, ← destination_moves, hm, destination_append, destination_cons,
      stepTo_name hstep, destination_nil, List.getLast?_concat]

theorem Workspace.Opens.fileName?_eq (h : w.Opens root base) (h' : w.Opens root' base)
    (hs : root.fileName?.isSome = root'.fileName?.isSome) : root.fileName? = root'.fileName? := by
  cases hr : root.fileName? with
  | none =>
    cases hr' : root'.fileName? with
    | none => rfl
    | some s' => simp [hr, hr'] at hs
  | some s =>
    cases hr' : root'.fileName? with
    | none => simp [hr, hr'] at hs
    | some s' => rw [← h.getLast?_of_fileName? hr, ← h'.getLast?_of_fileName? hr']

end ClassExport
