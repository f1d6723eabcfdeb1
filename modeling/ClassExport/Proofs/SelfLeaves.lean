import ClassExport.Proofs.ImportTable
import ClassExport.Source.Classes

/-!
Imports that name `self` in a group: what they bind, and when the name before the group is bound all
the same.
-/
namespace ClassExport.Source

variable {items : List Item} {tree : UseTree} {address : List Nat} {l l' : Leaf}
  {x p : String} {table : Imports}

theorem LeafAt.unique (h : LeafAt tree address l) (h' : LeafAt tree address l') : l = l' := by
  induction h generalizing l' with
  | name name =>
    cases h'
    rfl
  | rename name newName =>
    cases h'
    rfl
  | path outer _ ih =>
    cases h' with
    | path _ h' => rw [ih h']
  | group h _ ih =>
    cases h' with
    | group h' hl =>
      cases h.symm.trans h'
      exact ih hl

theorem ImportedAt.unique (h : ImportedAt items address l) (h' : ImportedAt items address l') :
    l = l' := by
  cases h with
  | use h hl =>
    cases h' with
    | use h' hl' =>
      cases h.symm.trans h'
      exact hl.unique hl'

/-- The name that a leaf `self` is written to bind: the new one that it is given, or else the last
one before the group. -/
def Leaf.enclosing? (l : Leaf) : Option String := l.newName.or l.way.getLast?

namespace Imports

/-- One segment more makes a path longer. -/
theorem pathText_concat_ne (path : List String) {s : String} (hs : s ≠ "") :
    pathText (path ++ [s]) ≠ pathText path := by
  intro h
  cases path with
  | nil => exact hs h
  | cons q path =>
    rw [pathText, String.intercalate_append_of_ne_nil (List.cons_ne_nil q path)
      (List.cons_ne_nil s []), String.intercalate_singleton] at h
    have hlength := congrArg String.length h
    have hcolons : "::".length = 2 := rfl
    simp only [pathText, String.length_append, hcolons] at hlength
    omega

theorem qualifiedName_of_bare (table : Imports) (x : String) :
    (HostType.ofType table (.named [] x)).qualifiedName =
    if HostType.primitive? x = none then some (table[x]?.getD x) else none := by
  rw [HostType.ofType, HostType.ofName]
  cases HostType.primitive? x with
  | some host => rfl
  | none => simp [Std.TreeMap.getD_eq_getD_getElem?]

/-- A leaf `self` is not what binds the name before its group, or its new name, to the path before
the group: this takes another leaf, the last one of that name, with the same path. Where no other
leaf binds the name, it is unbound, or bound to the path that ends in `self` if it is a new name. A
field of the bare type has the path before the group only by such another leaf, or where no leaf
binds the name and the path is the name alone. -/
theorem self_leaf_binds_enclosing_iff (h : ImportedAt items address l) (hn : l.name = "self")
    (hx : l.enclosing? = some x) :
    ((ofItems items)[x]? = some (pathText l.way) ↔ ∃ address' l', address' ≠ address ∧
      LastBinding (ImportedAt items) x address' l' ∧ pathText l'.segments = pathText l.way) ∧
    (x ≠ "self" →
      (∀ address' l', ImportedAt items address' l' → l'.bound = x → address' = address) →
      (ofItems items)[x]? = l.newName.map fun _ => pathText (l.way ++ ["self"])) ∧
    ((HostType.ofType (ofItems items) (.named [] x)).qualifiedName = some (pathText l.way) ↔
      HostType.primitive? x = none ∧ ((ofItems items)[x]? = some (pathText l.way) ∨
        (ofItems items)[x]? = none ∧ x = pathText l.way)) := by
  have hsegments : l.segments = l.way ++ ["self"] := by rw [Leaf.segments, hn]
  refine ⟨⟨fun ht => ?_, ?_⟩, fun hself honly => ?_, ?_⟩
  · rcases exists_last_or_unbound items x with ⟨address', l', hlast⟩ | hunbound
    · have hp := Option.some.inj ((getElem?_ofItems_of_last hlast).symm.trans ht)
      refine ⟨address', l', ?_, hlast, hp⟩
      rintro rfl
      obtain rfl := hlast.stands.unique h
      rw [hsegments] at hp
      exact pathText_concat_ne l'.way (by decide) hp
    · cases (getElem?_ofItems_of_unbound hunbound).symm.trans ht
  · rintro ⟨address', l', -, hlast, hp⟩
    rw [getElem?_ofItems_of_last hlast, hp]
  · cases hnew : l.newName with
    | some newName =>
      rw [Leaf.enclosing?, hnew] at hx
      have hb : l.bound = x := by
        rw [Leaf.bound, hnew]
        exact Option.some.inj hx
      have hlast : LastBinding (ImportedAt items) x address l :=
        ⟨h, hb, fun address' l' hl hl' => Or.inr (honly address' l' hl hl')⟩
      rw [getElem?_ofItems_of_last hlast, hsegments]
      rfl
    | none =>
      apply getElem?_ofItems_of_unbound
      intro address' l' hl hb
      obtain rfl := honly address' l' hl hb
      obtain rfl := hl.unique h
      rw [Leaf.bound, hnew, hn] at hb
      exact hself hb.symm
  · rw [qualifiedName_of_bare]
    by_cases hprimitive : HostType.primitive? x = none
    · rw [if_pos hprimitive]
      cases (ofItems items)[x]? <;> simp [hprimitive]
    · rw [if_neg hprimitive]
      exact iff_of_false nofun fun hp => hprimitive hp.1

end Imports

/-- A leaf `self` beside another leaf, and one with a new name. -/
def selfItems : List Item :=
  [.use (.path "a" (.path "b" (.group [.name "self", .name "c"]))),
    .use (.path "d" (.group [.rename "self" "e"]))]

/-- The leaf with a new name. -/
def aliasLeaf : Leaf := ⟨["d"], "self", some "e"⟩

theorem importedAt_aliasLeaf : ImportedAt selfItems [1, 0] aliasLeaf :=
  .use rfl (.path "d" (.group rfl (.rename "self" "e")))

namespace Imports

/-- No leaf binds the new name to the path before the group, and no field of its type gets this
path. -/
theorem self_leaf_binds_enclosing_of_alias :
    ImportedAt selfItems [1, 0] aliasLeaf ∧ aliasLeaf.name = "self" ∧
    aliasLeaf.enclosing? = some "e" ∧
    (¬ ∃ address' l', address' ≠ [1, 0] ∧
      LastBinding (ImportedAt selfItems) "e" address' l' ∧
      pathText l'.segments = pathText ["d"]) ∧
    (HostType.ofType (ofItems selfItems) (.named [] "e")).qualifiedName ≠
      some (pathText ["d"]) := by
  obtain ⟨htable, -, hfield⟩ :=
    self_leaf_binds_enclosing_iff importedAt_aliasLeaf rfl (x := "e") rfl
  have hd : pathText aliasLeaf.way = "d" := rfl
  have he : (ofItems selfItems)["e"]? = some "d::self" := by decide
  rw [he, hd] at htable hfield
  refine ⟨importedAt_aliasLeaf, rfl, rfl, fun hother => ?_, fun hq => ?_⟩
  · exact absurd (htable.mpr hother) (by decide)
  · exact absurd (hfield.mp hq) (by decide)

end Imports

/-- The text of these imports, with a field of either type. -/
def selfText : String :=
  "use a::b::\x7bself, c\x7d; use d::\x7bself as e\x7d; struct S \x7b x: b, y: e \x7d"

/-- A leaf `self` leaves the name before its group unbound, so that a field of this type keeps the
bare name; and it binds a new name to a path that ends in `self`. -/
theorem self_leaf_leaves_enclosing_unbound :
    ImportedAt selfItems [0, 0] ⟨["a", "b"], "self", none⟩ ∧
      (Imports.ofItems selfItems)["b"]? = none ∧
    ImportedAt selfItems [1, 0] ⟨["d"], "self", some "e"⟩ ∧
      (Imports.ofItems selfItems)["e"]? = some "d::self" ∧
    classes selfText "" = .ok [⟨"S", "", [⟨"x", "b", some "b", false, .single .privateAccess⟩,
      ⟨"y", "e", some "d::self", false, .single .privateAccess⟩]⟩] := by
  have hb : ImportedAt selfItems [0, 0] ⟨["a", "b"], "self", none⟩ :=
    .use rfl (.path "a" (.path "b" (.group rfl (.name "self"))))
  refine ⟨hb, by decide, importedAt_aliasLeaf, by decide, ?_⟩
  decide +kernel

end ClassExport.Source
