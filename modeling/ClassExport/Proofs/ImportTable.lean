import ClassExport.Source.Imports
import Mathlib.Data.List.Basic
import Mathlib.Order.Basic
import Std.Data.TreeMap.Lemmas

/-!
What the imports of a module bind: of all leaves of its trees that bind a name, the last one counts.
-/
namespace ClassExport.Source

/-- An end of a tree of imports that is no glob: the names on the way to it, its own name, and the
new one that it is given, if any. -/
structure Leaf where
  way : List String
  name : String
  newName : Option String

namespace Leaf

def segments (l : Leaf) : List String := l.way ++ [l.name]

/-- The name that the leaf binds. -/
def bound (l : Leaf) : String := l.newName.getD l.name

def below (outer : String) (l : Leaf) : Leaf := { l with way := outer :: l.way }

end Leaf

/-- A leaf of a tree, and the positions that lead to it in the groups around it. Only the branch
that it is on counts for its way; globs are no leaves. -/
inductive LeafAt : UseTree → List Nat → Leaf → Prop where
  | name (name : String) : LeafAt (.name name) [] ⟨[], name, none⟩
  | rename (name newName : String) : LeafAt (.rename name newName) [] ⟨[], name, some newName⟩
  | path {tree : UseTree} {address : List Nat} {l : Leaf} (outer : String)
      (h : LeafAt tree address l) :
      LeafAt (.path outer tree) address (l.below outer)
  | group {trees : List UseTree} {tree : UseTree} {i : Nat} {address : List Nat} {l : Leaf}
      (h : trees[i]? = some tree)
      (hl : LeafAt tree address l) : LeafAt (.group trees) (i :: address) l

/-- A leaf of one of the imports among items; its address begins with the position of the item. -/
inductive ImportedAt : List Item → List Nat → Leaf → Prop where
  | use {items : List Item} {tree : UseTree} {i : Nat} {address : List Nat} {l : Leaf}
      (h : items[i]? = some (.use tree)) (hl : LeafAt tree address l) :
        ImportedAt items (i :: address) l

/-- Leaves by their addresses, which are ordered as the leaves stand in the text. -/
abbrev Leaves := List Nat → Leaf → Prop

/-- The last of the leaves that bind a name. -/
structure LastBinding (P : Leaves) (x : String) (address : List Nat) (l : Leaf) : Prop where
  stands : P address l
  binds : l.bound = x
  last : ∀ address' l', P address' l' → l'.bound = x → address' < address ∨
    address' = address

/-- The leaves of a first branch and of those after it. -/
inductive FirstOrLater (P Q : Leaves) : Leaves where
  | first {address : List Nat} {l : Leaf} (h : P address l) : FirstOrLater P Q (0 :: address) l
  | later {i : Nat} {address : List Nat} {l : Leaf} (h : Q (i :: address) l) :
      FirstOrLater P Q ((i + 1) :: address) l

variable {P Q : Leaves} {x outer : String} {address : List Nat} {l : Leaf} {path : List String}
  {f g : Imports → Imports} {tree : UseTree} {trees : List UseTree} {item : Item}
  {items : List Item}

theorem leafAt_group_nil : ¬ LeafAt (.group []) address l := by
  intro h
  cases h with
  | group h => cases h

theorem leafAt_group_cons :
    LeafAt (.group (tree :: trees)) address l ↔
      FirstOrLater (LeafAt tree) (LeafAt (.group trees)) address l := by
  constructor
  · intro h
    cases h with
    | @group _ _ i _ _ h hl =>
      cases i with
      | zero =>
        cases h
        exact .first hl
      | succ i => exact .later (.group h hl)
  · rintro (h | h)
    · exact .group rfl h
    · cases h with
      | group h hl => exact .group h hl

theorem leafAt_name_iff {name : String} :
    LeafAt (.name name) address l ↔ address = [] ∧ l = ⟨[], name, none⟩ := by
  constructor
  · intro h
    cases h
    exact ⟨rfl, rfl⟩
  · rintro ⟨rfl, rfl⟩
    exact .name name

theorem leafAt_rename_iff {name newName : String} :
    LeafAt (.rename name newName) address l ↔ address = [] ∧
      l = ⟨[], name, some newName⟩ := by
  constructor
  · intro h
    cases h
    exact ⟨rfl, rfl⟩
  · rintro ⟨rfl, rfl⟩
    exact .rename name newName

theorem leafAt_path_iff : LeafAt (.path outer tree) address l ↔ ∃ l', LeafAt tree address l' ∧
    l = l'.below outer := by
  constructor
  · intro h
    cases h with
    | path _ h => exact ⟨_, h, rfl⟩
  · rintro ⟨l', h, rfl⟩
    exact .path outer h

theorem importedAt_nil : ¬ ImportedAt [] address l := by
  intro h
  cases h with
  | use h => cases h

theorem importedAt_cons : ImportedAt (item :: items) address l ↔
    FirstOrLater (fun address l => ∃ tree, item = .use tree ∧ LeafAt tree address l)
      (ImportedAt items) address l := by
  constructor
  · intro h
    cases h with
    | @use _ i _ _ h hl =>
      cases i with
      | zero =>
        cases h
        exact .first ⟨_, rfl, hl⟩
      | succ i => exact .later (.use h hl)
  · rintro (⟨tree, rfl, h⟩ | h)
    · exact .use rfl h
    · cases h with
      | use h hl => exact .use h hl

theorem succ_cons_lt_iff {i j : Nat} {a b : List Nat} :
    (i + 1) :: a < (j + 1) :: b ↔ i :: a < j :: b := by
  rw [List.cons_lt_cons_iff, List.cons_lt_cons_iff, Nat.add_lt_add_iff_right,
    Nat.add_right_cancel_iff]

/-- The last leaf of all is that of the later branches, if one of these binds the name. -/
theorem lastBinding_firstOrLater_iff (hq : ∀ l, ¬ Q [] l) :
    LastBinding (FirstOrLater P Q) x address l ↔
    (∃ i rest, address = (i + 1) :: rest ∧ LastBinding Q x (i :: rest) l) ∨
      ∃ rest, address = 0 :: rest ∧ LastBinding P x rest l ∧ ∀ address' l',
        Q address' l' → l'.bound ≠ x := by
  constructor
  · rintro ⟨hs, hb, hlast⟩
    cases hs with
    | @later i rest l hs =>
      refine Or.inl ⟨i, rest, rfl, hs, hb, fun a k hk hx => ?_⟩
      cases a with
      | nil => exact (hq k hk).elim
      | cons j a =>
        have hle := hlast _ k (.later hk) hx
        rw [succ_cons_lt_iff] at hle
        simpa using hle
    | @first rest l hs =>
      refine Or.inr ⟨rest, rfl, ⟨hs, hb, fun a k hk hx => ?_⟩, fun a k hk hx => ?_⟩
      · have hle := hlast _ k (.first hk) hx
        simpa using hle
      · cases a with
        | nil => exact hq k hk
        | cons j a =>
          have hle := hlast _ k (.later hk) hx
          rw [List.cons_lt_cons_iff, List.cons_eq_cons] at hle
          omega
  · rintro (⟨i, rest, rfl, hs, hb, hlast⟩ | ⟨rest, rfl, ⟨hs, hb, hlast⟩, hn⟩)
    · refine ⟨.later hs, hb, fun a k hk hx => ?_⟩
      cases hk with
      | first hk => exact Or.inl (List.cons_lt_cons_iff.mpr (Or.inl (Nat.succ_pos i)))
      | later hk =>
        rw [succ_cons_lt_iff]
        simpa using hlast _ k hk hx
    · refine ⟨.first hs, hb, fun a k hk hx => ?_⟩
      cases hk with
      | first hk => simpa using hlast _ k hk hx
      | later hk => exact (hn _ k hk hx).elim

namespace Imports

/-- A change of the table that binds leaves below a path: a name gets the path of the last leaf that
binds it, and without one it keeps what it had. -/
structure Binds (path : List String) (P : Leaves) (f : Imports → Imports) : Prop where
  last : ∀ table x address l, LastBinding P x address l →
    (f table)[x]? = some (pathText (path ++ l.segments))
  others : ∀ table x, (∀ address l, P address l → l.bound ≠ x) → (f table)[x]? = table[x]?
  exists_last : ∀ address l, P address l → ∃ address' l', LastBinding P l.bound address' l'

theorem getElem?_insert_self (table : Imports) (x p : String) :
    (table.insert x p)[x]? = some p := by
  rw [Std.TreeMap.getElem?_insert, if_pos Std.ReflCmp.compare_self]

theorem getElem?_insert_ne (table : Imports) {x y : String} (p : String) (h : y ≠ x) :
    (table.insert y p)[x]? = table[x]? := by
  rw [Std.TreeMap.getElem?_insert, if_neg (mt Std.LawfulEqCmp.eq_of_compare h)]

theorem Binds.congr (h : Binds path P f) (hp : ∀ address l, Q address l ↔ P address l) :
    Binds path Q f := by
  obtain rfl : Q = P := funext fun address => funext fun l => propext (hp address l)
  exact h

theorem Binds.none (h : ∀ address l, ¬ P address l) : Binds path P fun table => table where
  last _ _ _ _ hl := (h _ _ hl.stands).elim
  others _ _ _ := rfl
  exists_last _ _ hl := (h _ _ hl).elim

theorem Binds.leaf (path : List String) (l : Leaf) :
    Binds path (fun address l' => address = [] ∧ l' = l) fun table =>
      table.insert l.bound (pathText (path ++ l.segments)) where
  last table x address l' hl := by
    obtain ⟨⟨-, rfl⟩, rfl, -⟩ := hl
    exact getElem?_insert_self table _ _
  others table x hn := getElem?_insert_ne table _ (hn [] l ⟨rfl, rfl⟩)
  exists_last := by
    rintro address l' ⟨rfl, rfl⟩
    exact ⟨[], l', ⟨rfl, rfl⟩, rfl, fun _ _ h _ => Or.inr h.1⟩

/-- Leaves of a tree that stands below one more name. -/
theorem Binds.below (h : Binds (path ++ [outer]) P f) :
    Binds path (fun address l => ∃ l', P address l' ∧ l = l'.below outer) f where
  last table x address l hl := by
    obtain ⟨⟨l', hp, rfl⟩, hb, hlast⟩ := hl
    have hl' : LastBinding P x address l' :=
      ⟨hp, hb, fun a k hk hx => hlast a _ ⟨k, hk, rfl⟩ hx⟩
    rw [h.last table x address l' hl', List.append_assoc]
    rfl
  others table x hn :=
    h.others table x fun address l hl => hn address (l.below outer) ⟨l, hl, rfl⟩
  exists_last := by
    rintro address _ ⟨l, hl, rfl⟩
    obtain ⟨a, k, hk, hb, hlast⟩ := h.exists_last address l hl
    refine ⟨a, k.below outer, ⟨k, hk, rfl⟩, hb, ?_⟩
    rintro a' _ ⟨k', hk', rfl⟩ hx
    exact hlast a' k' hk' hx

/-- The last leaf of all is the last one of the later branches, if these bind the name, and else
that of the first. -/
theorem Binds.cons (h : Binds path P f) (h' : Binds path Q g) (hq : ∀ l, ¬ Q [] l) :
    Binds path (FirstOrLater P Q) fun table => g (f table) where
  last table x address l hl := by
    rcases (lastBinding_firstOrLater_iff hq).mp hl with ⟨i, rest, rfl, hlast⟩ |
      ⟨rest, rfl, hlast, hn⟩
    · exact h'.last (f table) x _ l hlast
    · exact (h'.others (f table) x hn).trans (h.last table x rest l hlast)
  others table x hn := by
    have hg : (g (f table))[x]? = (f table)[x]? := by
      refine h'.others (f table) x fun address l hl => ?_
      cases address with
      | nil => exact (hq l hl).elim
      | cons i rest => exact hn _ l (.later hl)
    exact hg.trans (h.others table x fun address l hl => hn _ l (.first hl))
  exists_last := by
    intro address l hl
    by_cases hb : ∃ a k, Q a k ∧ k.bound = l.bound
    · obtain ⟨a, k, hk, hb⟩ := hb
      obtain ⟨a', k', hlast⟩ := h'.exists_last a k hk
      cases a' with
      | nil => exact (hq k' hlast.stands).elim
      | cons i rest =>
        exact ⟨_, k', (lastBinding_firstOrLater_iff hq).mpr
          (Or.inl ⟨i, rest, rfl, hb ▸ hlast⟩)⟩
    · cases hl with
      | later hl => exact (hb ⟨_, l, hl, rfl⟩).elim
      | first hl =>
        obtain ⟨a, k, hlast⟩ := h.exists_last _ l hl
        have hn : ∀ address k, Q address k → k.bound ≠ l.bound :=
          fun address k hk he => hb ⟨address, k, hk, he⟩
        exact ⟨_, k, (lastBinding_firstOrLater_iff hq).mpr (Or.inr ⟨a, rfl, hlast, hn⟩)⟩

mutual

theorem binds_bind (path : List String) (tree : UseTree) :
    Binds path (LeafAt tree) (bind path tree) := by
  match tree with
  | .path outer tree =>
    exact (binds_bind (path ++ [outer]) tree).below.congr fun address l => leafAt_path_iff
  | .name name =>
    exact (Binds.leaf path ⟨[], name, none⟩).congr fun address l => leafAt_name_iff
  | .rename name newName =>
    exact (Binds.leaf path ⟨[], name, some newName⟩).congr fun address l => leafAt_rename_iff
  | .glob => exact .none fun address l h => nomatch h
  | .group trees => exact binds_bindAll path trees

/-- The branches of a group all stand below the same path. -/
theorem binds_bindAll (path : List String) (trees : List UseTree) :
    Binds path (LeafAt (.group trees)) (bindAll path trees) := by
  match trees with
  | [] => exact .none fun address l => leafAt_group_nil
  | tree :: trees =>
    have h := (binds_bind path tree).cons (binds_bindAll path trees) fun l hl => nomatch hl
    exact h.congr fun address l => leafAt_group_cons

end

/-- What one item adds to the table of its module. -/
def withItem (table : Imports) (item : Item) : Imports :=
  match item with
  | .use tree => bind [] tree table
  | _ => table

theorem ofItems_eq_foldl (items : List Item) : ofItems items = items.foldl withItem ∅ := rfl

theorem binds_withItem (item : Item) :
    Binds [] (fun address l => ∃ tree, item = .use tree ∧ LeafAt tree address l)
      (withItem · item) := by
  cases item with
  | use tree =>
    refine (binds_bind [] tree).congr fun address l => ⟨?_, fun h => ⟨tree, rfl, h⟩⟩
    rintro ⟨_, ⟨⟩, h⟩
    exact h
  | _ => exact .none fun address l h => nomatch h

theorem binds_items (items : List Item) : Binds [] (ImportedAt items) (items.foldl withItem) := by
  induction items with
  | nil => exact .none fun address l => importedAt_nil
  | cons item items ih =>
    have h := (binds_withItem item).cons ih fun l hl => nomatch hl
    exact h.congr fun address l => importedAt_cons

theorem getElem?_ofItems_of_last (h : LastBinding (ImportedAt items) x address l) :
    (ofItems items)[x]? = some (pathText l.segments) := by
  rw [ofItems_eq_foldl]
  exact (binds_items items).last ∅ x address l h

theorem getElem?_ofItems_of_unbound (h : ∀ address l,
    ImportedAt items address l → l.bound ≠ x) :
    (ofItems items)[x]? = none := by
  rw [ofItems_eq_foldl, (binds_items items).others ∅ x h]
  exact Std.TreeMap.getElem?_emptyc

theorem exists_last_or_unbound (items : List Item) (x : String) :
    (∃ address l, LastBinding (ImportedAt items) x address l) ∨
      ∀ address l, ImportedAt items address l → l.bound ≠ x := by
  by_cases hb : ∃ address l, ImportedAt items address l ∧ l.bound = x
  · obtain ⟨address, l, hl, rfl⟩ := hb
    exact Or.inl ((binds_items items).exists_last address l hl)
  · exact Or.inr fun address l hl hx => hb ⟨address, l, hl, hx⟩

/-- The table of a module has for a name the path from the root of a tree down to the last leaf that
binds the name, and it has something for a name just when some leaf binds it. -/
theorem ofItems_binds_last_leaf (items : List Item) (x : String) :
    (∀ p, (ofItems items)[x]? = some p ↔
      ∃ address l, LastBinding (ImportedAt items) x address l ∧ p = pathText l.segments) ∧
    ((ofItems items)[x]?.isSome ↔ ∃ address l, ImportedAt items address l ∧ l.bound = x) := by
  rcases exists_last_or_unbound items x with ⟨address, l, hl⟩ | hn
  · have hx := getElem?_ofItems_of_last hl
    refine ⟨fun p =>
      ⟨fun h => ⟨address, l, hl, Option.some.inj (h.symm.trans hx)⟩, ?_⟩, ?_⟩
    · rintro ⟨address', l', hl', rfl⟩
      exact getElem?_ofItems_of_last hl'
    · rw [hx]
      exact iff_of_true rfl ⟨address, l, hl.stands, hl.binds⟩
  · have hx := getElem?_ofItems_of_unbound hn
    refine ⟨fun p => ?_, ?_⟩
    · rw [hx]
      refine iff_of_false nofun ?_
      rintro ⟨address, l, hl, -⟩
      exact hn address l hl.stands hl.binds
    · rw [hx]
      refine iff_of_false nofun ?_
      rintro ⟨address, l, hl, hb⟩
      exact hn address l hl hb

example :
    (ofItems [.use (.path "a" (.group [.name "T", .path "b" (.group [.rename "U" "T", .glob])])),
      .use (.path "c" (.name "V"))])["T"]? = some "a::b::U" := by
  decide

end Imports
end ClassExport.Source
