import ClassExport.Source.Classes
import Mathlib.Data.List.Forall2
import Mathlib.Data.String.Basic
import Mathlib.Order.Basic

/-!
Which structs of source text become classes, in which order, and what of the text their fields
depend on.
-/
namespace ClassExport.Source

variable {items inner scope before : List Item} {item : Item} {address rest : List Nat}
  {modules : List String} {name package text : String} {body : StructBody} {uses : List UseTree}
  {imports : Imports} {i : Nat}

/-- A struct in a module and what it is read from: the positions of the modules around it and of
itself, the names of these modules, and the items of the innermost one. -/
inductive StructAt : List Item → List Nat → List String → List Item → String →
    StructBody → Prop where
  | here {items : List Item} {i : Nat} {name : String} {body : StructBody}
      (h : items[i]? = some (.struct name body)) : StructAt items [i] [] items name body
  | inside {items inner scope : List Item} {i : Nat} {address : List Nat} {outer name : String}
      {modules : List String} {body : StructBody}
      (h : items[i]? = some (.module outer (some inner)))
        (hs : StructAt inner address modules scope name body) :
      StructAt items (i :: address) (outer :: modules) scope name body

/-- The imports that stand among items. -/
def usesOf (items : List Item) : List UseTree :=
  items.filterMap fun
    | .use tree => some tree
    | _ => none

/-- The package of what stands in modules; an empty one begins with no dot. -/
def packageWithin (package : String) (modules : List String) : String :=
  ".".intercalate ((package :: modules).dropWhile (· = ""))

def Visibility.modifier : Visibility → Modifier
  | .everywhere => .publicAccess
  | .restricted => .protectedAccess
  | .inherited => .privateAccess

/-- A field with its plain name, which is the written one without the marks of a raw identifier. -/
structure ReadsField (uses : List UseTree) (f : FieldSyntax) (field : Field) : Prop where
  name : ∃ marks, f.name.toList = (List.replicate marks ['r', '#']).flatten ++ field.name.toList
  plain : ¬ ['r', '#'] <+: field.name.toList
  type : (⟨field.typeName, field.qualifiedTypeName, field.isArray⟩ : HostType) =
    HostType.ofType (Imports.bindAll [] uses ∅) f.type
  modifiers : field.modifiers = .single f.visibility.modifier

/-- The fields of a struct, one to one and in order; tuples have none that can be read. -/
inductive ReadsBody (uses : List UseTree) : StructBody → List Field → Prop where
  | named {written : List FieldSyntax} {fields : List Field}
      (h : List.Forall₂ (ReadsField uses) written fields) :
      ReadsBody uses (.named written) fields
  | unit : ReadsBody uses .unit []

/-- A class is what a struct at an address declares. -/
def DeclaredAt (items : List Item) (package : String) (address : List Nat) (c : Class) : Prop :=
  ∃ modules scope body, StructAt items address modules scope c.name body ∧
    c.package = packageWithin package modules ∧ ReadsBody (usesOf scope) body c.fields

/-- A struct with named fields or none stands at an address. -/
def ClassAt (items : List Item) (address : List Nat) : Prop :=
  ∃ modules scope name body, StructAt items address modules scope name body ∧ body ≠ .tuple

/-! Fields. -/

theorem dropRawMark_eq_iff {cs plain : List Char} : dropRawMark cs = plain ↔
    (∃ marks, cs = (List.replicate marks ['r', '#']).flatten ++ plain) ∧
      ¬ ['r', '#'] <+: plain := by
  fun_induction dropRawMark cs with
  | case1 cs ih =>
    rw [ih]
    refine and_congr_left fun hp =>
      ⟨fun ⟨marks, hm⟩ => ⟨marks + 1, by simp [List.replicate_succ, hm]⟩, ?_⟩
    rintro ⟨_ | marks, hm⟩
    · exact (hp ⟨cs, by simpa using hm⟩).elim
    · exact ⟨marks, by simpa [List.replicate_succ] using hm⟩
  | case2 cs hn =>
    have hplain : ¬ ['r', '#'] <+: cs := fun ⟨rest, hr⟩ => hn rest hr.symm
    constructor
    · rintro rfl
      exact ⟨⟨0, rfl⟩, hplain⟩
    · rintro ⟨⟨_ | marks, hm⟩, -⟩
      · exact hm
      · exact (hplain ⟨_, by simpa [List.replicate_succ] using hm.symm⟩).elim

theorem ofItems_eq (items : List Item) :
    Imports.ofItems items = Imports.bindAll [] (usesOf items) ∅ := by
  rw [Imports.ofItems]
  generalize (∅ : Imports) = table
  induction items generalizing table with
  | nil => rfl
  | cons item items ih =>
    rw [List.foldl_cons, ih, usesOf, usesOf, List.filterMap_cons]
    cases item <;> rfl

theorem readsField_iff {f : FieldSyntax} {field : Field} :
    ReadsField uses f field ↔ field = f.field (Imports.bindAll [] uses ∅) := by
  have hname : field.name = String.ofList (dropRawMark f.name.toList) ↔
      (∃ marks, f.name.toList = (List.replicate marks ['r', '#']).flatten ++
        field.name.toList) ∧
        ¬ ['r', '#'] <+: field.name.toList := by
    rw [← dropRawMark_eq_iff]
    exact ⟨fun h => by rw [h, String.toList_ofList], fun h =>
      String.toList_injective (by rw [h, String.toList_ofList])⟩
  have hmodifiers : f.visibility.modifiers = .single f.visibility.modifier := by
    cases f.visibility <;> rfl
  constructor
  · rintro ⟨hn, hp, ht, hm⟩
    have hh := hname.mpr ⟨hn, hp⟩
    cases field
    simp only [FieldSyntax.field, ← ht, hmodifiers] at hh hm ⊢
    rw [hh, hm]
  · rintro rfl
    obtain ⟨hn, hp⟩ := hname.mp rfl
    exact ⟨hn, hp, rfl, hmodifiers⟩

theorem readsBody_iff {fields : List Field} :
    ReadsBody uses body fields ↔ body.fields? (Imports.bindAll [] uses ∅) = some fields := by
  constructor
  · rintro (h | _)
    · rename_i written
      rw [StructBody.fields?, Option.some.injEq]
      induction h with
      | nil => rfl
      | cons hf _ ih => rw [List.map_cons, ih, readsField_iff.mp hf]
    · rfl
  · intro h
    cases body with
    | tuple => cases h
    | unit =>
      cases h
      exact .unit
    | named written =>
      cases h
      refine .named (List.forall₂_map_right_iff.mpr (List.forall₂_same.mpr fun f _ => ?_))
      exact readsField_iff.mpr rfl

/-! Classes, address by address. -/

theorem packageWithin_nil : packageWithin package [] = package := by
  by_cases hp : package = ""
  · simp [packageWithin, hp]
  · simp [packageWithin, List.dropWhile_cons_of_neg, hp]

theorem packageWithin_inner :
    packageWithin (innerPackage package name) modules =
      packageWithin package (name :: modules) := by
  rw [innerPackage, packageWithin, packageWithin]
  by_cases hp : package = ""
  · simp [hp]
  · have hne : package ++ "." ++ name ≠ "" := by simp
    rw [if_neg hp, List.dropWhile_cons_of_neg (by simp),
      List.dropWhile_cons_of_neg (by simpa using hp)]
    cases modules <;> simp [String.append_assoc]

theorem classAt_struct (h : items[i]? = some (.struct name body)) :
    ClassAt items (i :: rest) ↔ rest = [] ∧ body ≠ .tuple := by
  constructor
  · rintro ⟨_, _, _, _, hs, hb⟩
    cases hs with
    | here h' =>
      cases h.symm.trans h'
      exact ⟨rfl, hb⟩
    | inside h' => cases h.symm.trans h'
  · rintro ⟨rfl, hb⟩
    exact ⟨_, _, _, _, .here h, hb⟩

theorem classAt_module (h : items[i]? = some (.module name (some inner))) :
    ClassAt items (i :: rest) ↔ ClassAt inner rest := by
  constructor
  · rintro ⟨_, _, _, _, hs, hb⟩
    cases hs with
    | here h' => cases h.symm.trans h'
    | inside h' hs =>
      cases h.symm.trans h'
      exact ⟨_, _, _, _, hs, hb⟩
  · rintro ⟨_, _, _, _, hs, hb⟩
    exact ⟨_, _, _, _, .inside h hs, hb⟩

/-- Other items, and modules that are in another file, hold no classes. -/
theorem not_classAt (h : items[i]? = some item) (hs : ∀ name body, item ≠ .struct name body)
    (hm : ∀ name inner, item ≠ .module name (some inner)) : ¬ ClassAt items (i :: rest) := by
  rintro ⟨_, _, _, _, hc, -⟩
  cases hc with
  | here h' => exact hs _ _ (Option.some.inj (h.symm.trans h'))
  | inside h' => exact hm _ _ (Option.some.inj (h.symm.trans h'))

theorem ClassAt.exists_eq (h : ClassAt items address) :
    ∃ i rest, address = i :: rest ∧ i < items.length := by
  obtain ⟨_, _, _, _, hs, -⟩ := h
  cases hs with
  | here h => exact ⟨_, _, rfl, (List.getElem?_eq_some_iff.mp h).1⟩
  | inside h => exact ⟨_, _, rfl, (List.getElem?_eq_some_iff.mp h).1⟩

/-- Addresses in order, with the classes that are declared there: all those that begin at certain
positions. -/
structure Lists (items : List Item) (package : String) (P : Nat → Prop)
    (addresses : List (List Nat)) (classes : List Class) : Prop where
  ordered : addresses.Pairwise (· < ·)
  mem : ∀ address, address ∈ addresses ↔ ClassAt items address ∧
    ∃ i ∈ address.head?, P i
  declared : List.Forall₂ (DeclaredAt items package) addresses classes

theorem Lists.none {P : Nat → Prop} (h : ∀ i rest, P i → ¬ ClassAt items (i :: rest)) :
    Lists items package P [] [] := by
  refine ⟨.nil, fun address => ⟨nofun, ?_⟩, .nil⟩
  rintro ⟨hc, i, hi, hp⟩
  obtain ⟨rest, rfl⟩ := List.head?_eq_some_iff.mp hi
  exact (h i rest hp hc).elim

theorem Lists.append {as bs : List (List Nat)} {cs ds : List Class}
    (h : Lists items package (· = i) as cs) (h' : Lists items package (i < ·) bs ds) :
    Lists items package (i ≤ ·) (as ++ bs) (cs ++ ds) := by
  refine ⟨List.pairwise_append.mpr ⟨h.ordered, h'.ordered, fun a ha b hb => ?_⟩,
    fun address => ?_, List.rel_append h.declared h'.declared⟩
  · obtain ⟨-, _, hi, rfl⟩ := (h.mem a).mp ha
    obtain ⟨-, j, hj, hlt⟩ := (h'.mem b).mp hb
    obtain ⟨_, rfl⟩ := List.head?_eq_some_iff.mp hi
    obtain ⟨_, rfl⟩ := List.head?_eq_some_iff.mp hj
    exact List.cons_lt_cons_iff.mpr (Or.inl hlt)
  · rw [List.mem_append, h.mem, h'.mem, ← and_or_left, ← exists_or]
    simp only [← and_or_left, le_iff_eq_or_lt, eq_comm]

theorem lists_struct (h : items[i]? = some (.struct name body)) :
    ∃ addresses, Lists items package (· = i) addresses
    (itemClasses package (Imports.ofItems items) (.struct name body)) := by
  rw [itemClasses, ofItems_eq]
  cases hf : body.fields? (Imports.bindAll [] (usesOf items) ∅) with
  | none =>
    have hb : body = .tuple := by cases body <;> first | rfl | cases hf
    refine ⟨[], .none ?_⟩
    rintro _ rest rfl hc
    exact ((classAt_struct h).mp hc).2 hb
  | some fields =>
    have hb : body ≠ .tuple := fun hb => by rw [hb] at hf; cases hf
    refine ⟨[[i]], List.pairwise_singleton _ _, fun address => ?_, .cons ?_ .nil⟩
    · rw [List.mem_singleton]
      constructor
      · rintro rfl
        exact ⟨(classAt_struct h).mpr ⟨rfl, hb⟩, i, rfl, rfl⟩
      · rintro ⟨hc, _, hi, rfl⟩
        obtain ⟨rest, rfl⟩ := List.head?_eq_some_iff.mp hi
        rw [((classAt_struct h).mp hc).1]
    · exact ⟨[], items, body, .here h, packageWithin_nil.symm, readsBody_iff.mpr hf⟩

/-- The addresses inside a module begin with its own position. -/
theorem Lists.inside {addresses : List (List Nat)} {cs : List Class}
    (h : items[i]? = some (.module name (some inner)))
    (hl : Lists inner (innerPackage package name) (0 ≤ ·) addresses cs) :
    Lists items package (· = i) (addresses.map (i :: ·)) cs := by
  refine ⟨List.pairwise_map.mpr (hl.ordered.imp fun hlt =>
    List.cons_lt_cons_iff.mpr (Or.inr ⟨rfl, hlt⟩)), fun address => ?_,
      List.forall₂_map_left_iff.mpr (hl.declared.imp ?_)⟩
  · rw [List.mem_map]
    constructor
    · rintro ⟨rest, hr, rfl⟩
      exact ⟨(classAt_module h).mpr ((hl.mem rest).mp hr).1, i, rfl, rfl⟩
    · rintro ⟨hc, _, hi, rfl⟩
      obtain ⟨rest, rfl⟩ := List.head?_eq_some_iff.mp hi
      have hr := (classAt_module h).mp hc
      obtain ⟨j, _, rfl, -⟩ := hr.exists_eq
      exact ⟨_, (hl.mem _).mpr ⟨hr, j, rfl, Nat.zero_le j⟩, rfl⟩
  · rintro address c ⟨modules, scope, body, hs, hp, hb⟩
    exact ⟨name :: modules, scope, body, .inside h hs, hp.trans packageWithin_inner, hb⟩

mutual

theorem exists_lists_item (item : Item) (items : List Item) (i : Nat) (package : String)
    (h : items[i]? = some item) :
    ∃ addresses, Lists items package (· = i) addresses
      (itemClasses package (Imports.ofItems items) item) := by
  match item with
  | .struct name body => exact lists_struct h
  | .module name (some inner) =>
    obtain ⟨addresses, hl⟩ := exists_lists_items inner inner [] (innerPackage package name) rfl
    exact ⟨_, hl.inside h⟩
  | .module name none =>
    exact ⟨[], .none (by rintro _ rest rfl; exact not_classAt h nofun nofun)⟩
  | .use tree => exact ⟨[], .none (by rintro _ rest rfl; exact not_classAt h nofun nofun)⟩
  | .other => exact ⟨[], .none (by rintro _ rest rfl; exact not_classAt h nofun nofun)⟩

/-- The classes of the items that follow others of their module; the imports are those of the whole
module. -/
theorem exists_lists_items (items scope before : List Item) (package : String)
    (h : scope = before ++ items) :
    ∃ addresses, Lists scope package (before.length ≤ ·) addresses
      (itemsClasses package (Imports.ofItems scope) items) := by
  match items with
  | [] =>
    refine ⟨[], .none fun i rest hi hc => ?_⟩
    obtain ⟨_, _, he, hlt⟩ := hc.exists_eq
    cases he
    rw [h, List.append_nil] at hlt
    omega
  | item :: items =>
    obtain ⟨as, ha⟩ := exists_lists_item item scope before.length package (by simp [h])
    obtain ⟨bs, hb⟩ := exists_lists_items items scope (before ++ [item]) package
      (h.trans (List.append_cons before item items))
    rw [List.length_append, List.length_singleton] at hb
    exact ⟨as ++ bs, ha.append hb⟩

end

/-- An address tells all that a struct there is read from. -/
theorem StructAt.unique {modules' : List String} {scope' : List Item} {name' : String}
    {body' : StructBody} (h : StructAt items address modules scope name body)
    (h' : StructAt items address modules' scope' name' body') :
    modules = modules' ∧ scope = scope' ∧ name = name' ∧ body = body' := by
  induction h generalizing modules' with
  | here h =>
    cases h' with
    | here h' =>
      cases h.symm.trans h'
      exact ⟨rfl, rfl, rfl, rfl⟩
    | inside h' hs => cases hs
  | inside h hs ih =>
    cases h' with
    | here h' => cases hs
    | inside h' hs' =>
      cases h.symm.trans h'
      obtain ⟨rfl, hrest⟩ := ih hs'
      exact ⟨rfl, hrest⟩

/-- What the fields of a class are read from: the body of its struct and the imports of the module
that this stands in. -/
def ReadFrom (items : List Item) (address : List Nat) (uses : List UseTree)
    (body : StructBody) : Prop :=
  ∃ modules scope name, StructAt items address modules scope name body ∧ usesOf scope = uses

theorem DeclaredAt.fields_eq {c : Class} (h : DeclaredAt items package address c)
    (hr : ReadFrom items address uses body) :
    body.fields? (Imports.bindAll [] uses ∅) = some c.fields := by
  obtain ⟨_, scope, _, hs, -, hb⟩ := h
  obtain ⟨_, _, _, hs', rfl⟩ := hr
  obtain ⟨-, rfl, -, rfl⟩ := hs.unique hs'
  exact readsBody_iff.mp hb

theorem DeclaredAt.unique {c c' : Class} (h : DeclaredAt items package address c)
    (h' : DeclaredAt items package address c') : c = c' := by
  obtain ⟨modules, scope, body, hs, hp, hb⟩ := h
  obtain ⟨modules', scope', body', hs', hp', hb'⟩ := h'
  obtain ⟨rfl, rfl, hn, rfl⟩ := hs.unique hs'
  have hf : c.fields = c'.fields :=
    Option.some.inj ((readsBody_iff.mp hb).symm.trans (readsBody_iff.mp hb'))
  cases c
  cases c'
  simp_all

theorem ReadsBody.ne_tuple {fields : List Field} (h : ReadsBody uses body fields) :
    body ≠ .tuple := by
  rintro rfl
  cases h

/-- A struct that is no tuple declares a class. -/
theorem StructAt.exists_declaredAt (h : StructAt items address modules scope name body)
    (hb : body ≠ .tuple) (package : String) :
    ∃ fields, DeclaredAt items package address ⟨name,
      packageWithin package modules, fields⟩ := by
  have hfields : ∃ fields,
      body.fields? (Imports.bindAll [] (usesOf scope) ∅) = some fields := by
    cases body with
    | named written => exact ⟨_, rfl⟩
    | unit => exact ⟨_, rfl⟩
    | tuple => exact (hb rfl).elim
  obtain ⟨fields, hf⟩ := hfields
  exact ⟨fields, modules, scope, body, h, rfl, readsBody_iff.mpr hf⟩

theorem mem_classesOf_iff {c : Class} :
    c ∈ classesOf package items ↔ ∃ address, DeclaredAt items package address c := by
  obtain ⟨addresses, -, hm, hd⟩ := exists_lists_items items items [] package rfl
  constructor
  · intro hc
    obtain ⟨n, hn, rfl⟩ := List.mem_iff_getElem.mp hc
    exact ⟨_, hd.get (hd.length_eq ▸ hn) hn⟩
  · rintro ⟨address, h⟩
    have hc : ClassAt items address := by
      obtain ⟨modules, scope, body, hs, -, hb⟩ := h
      exact ⟨modules, scope, _, body, hs, hb.ne_tuple⟩
    obtain ⟨i, _, rfl, -⟩ := hc.exists_eq
    obtain ⟨n, hn, ha⟩ := List.mem_iff_getElem.mp ((hm _).mpr ⟨hc, i, rfl, Nat.zero_le i⟩)
    have hn' := hd.length_eq ▸ hn
    have hget : DeclaredAt items package addresses[n]
        (itemsClasses package (Imports.ofItems items) items)[n] :=
      hd.get hn hn'
    rw [ha] at hget
    rw [h.unique hget]
    exact List.getElem_mem hn'

theorem classes_eq_ok (package : String) (h : items? text = some items) :
    classes text package = .ok (classesOf package items) := by
  simp only [classes, h]

/-- The classes that source text declares are its structs with named fields or none, in the order of
their addresses, each in the package that the modules around it make and with the fields of the
struct. Wherever two structs of one body stand in modules that have the same imports, their classes
have the same fields. -/
theorem classes_declaredAt (package : String) (h : items? text = some items) :
    ∃ addresses cs, classes text package = .ok cs ∧ addresses.Pairwise (· < ·) ∧
      (∀ address, address ∈ addresses ↔ ClassAt items address) ∧
      List.Forall₂ (DeclaredAt items package) addresses cs ∧
      ∀ address uses body c items' package' address' c', ReadFrom items address uses body →
        ReadFrom items' address' uses body → DeclaredAt items package address c →
        DeclaredAt items' package' address' c' → c.fields = c'.fields := by
  obtain ⟨addresses, ho, hm, hd⟩ := exists_lists_items items items [] package rfl
  refine ⟨addresses, itemsClasses package (Imports.ofItems items) items, ?_, ho,
    fun address => ?_, hd, ?_⟩
  · simp only [classes, h]
    rfl
  · rw [hm]
    refine and_iff_left_of_imp fun hc => ?_
    obtain ⟨i, _, rfl, -⟩ := hc.exists_eq
    exact ⟨i, rfl, Nat.zero_le i⟩
  · intro address uses body c items' package' address' c' hr hr' hc hc'
    exact Option.some.inj ((hc.fields_eq hr).symm.trans (hc'.fields_eq hr'))

/-- A struct, and inside a module one that is a class, one that is none and one in a function. -/
def nestedText : String :=
  "use a::T; struct A \x7b pub id: T \x7d " ++
    "mod m \x7b struct B; struct P(u8); fn f() \x7b struct L; \x7d \x7d"

/-- The struct becomes a class of the package and the one in the module a class of the package
below. -/
def nestedClasses : List Class :=
  [⟨"A", "p", [⟨"id", "T", some "a::T", false, .single .publicAccess⟩]⟩,
    ⟨"B", "p.m", []⟩]

theorem classes_declaredAt_of_nestedText : ∃ items, items? nestedText = some items ∧
    classes nestedText "p" = .ok nestedClasses ∧
    ∃ addresses cs, classes nestedText "p" = .ok cs ∧ addresses.Pairwise (· < ·) ∧
      (∀ address, address ∈ addresses ↔ ClassAt items address) ∧
      List.Forall₂ (DeclaredAt items "p") addresses cs ∧
      ∀ address uses body c items' package' address' c', ReadFrom items address uses body →
        ReadFrom items' address' uses body → DeclaredAt items "p" address c →
        DeclaredAt items' package' address' c' → c.fields = c'.fields := by
  have hs : (items? nestedText).isSome := by decide +kernel
  obtain ⟨items, h⟩ := Option.isSome_iff_exists.mp hs
  have hc : classes nestedText "p" = .ok nestedClasses := by decide +kernel
  exact ⟨items, h, hc, classes_declaredAt "p" h⟩

end ClassExport.Source
