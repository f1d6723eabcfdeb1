import ClassExport.Source.HostType

/-!
A field's type is read in two stages: first all that is wrapped around it goes, then what is left is
named.
-/
namespace ClassExport.Source

open HostType

variable {imports : Imports} {t u e : TypeSyntax} {name : String}

/-- The type under references, parentheses and wrappers. -/
def TypeSyntax.stripped : TypeSyntax → TypeSyntax
  | .reference target => target.stripped
  | .paren inner => inner.stripped
  | .applied qualifiers name argument =>
    if name ∈ wrappers then argument.stripped else .applied qualifiers name argument
  | t => t

/-- What an array, a slice or a sequence holds. -/
def TypeSyntax.element? : TypeSyntax → Option TypeSyntax
  | .array element => some element
  | .slice element => some element
  | .applied _ name argument => if name ∈ sequences then some argument else none
  | _ => none

/-- The names of a path before its last one, and the last one. -/
def TypeSyntax.path? : TypeSyntax → Option (List String × String)
  | .named qualifiers name => some (qualifiers, name)
  | .applied qualifiers name _ => some (qualifiers, name)
  | _ => none

/-- The type is the other one in any number of references, parentheses and wrappers, in any
order. -/
inductive Wraps : TypeSyntax → TypeSyntax → Prop where
  | same (t : TypeSyntax) : Wraps t t
  | reference {u t : TypeSyntax} (h : Wraps u t) : Wraps (.reference u) t
  | paren {u t : TypeSyntax} (h : Wraps u t) : Wraps (.paren u) t
  | wrapper {u t : TypeSyntax} {name : String} (qualifiers : List String)
      (hn : name ∈ wrappers) (h : Wraps u t) :
      Wraps (.applied qualifiers name u) t

namespace HostType

/-- The names of primitive types and strings, each with its keyword. -/
def keywords : List (String × String) := [
  ("String", "String"), ("str", "String"), ("bool", "boolean"),
  ("i8", "byte"), ("u8", "byte"), ("i16", "short"), ("u16", "short"),
    ("i32", "int"), ("u32", "int"),
  ("i64", "long"), ("u64", "long"), ("i128", "long"), ("u128", "long"), ("isize", "long"),
    ("usize", "long"),
  ("f32", "float"), ("f64", "double")]

/-- What a path is short for: a written path stands for itself, a single name for what it was
imported from. -/
def writtenOrImported (imports : Imports) : List String → String → String
  | [], name => (imports.get? name).getD name
  | qualifiers, name => "::".intercalate (qualifiers ++ [name])

/-- A type without looking into it. -/
def leaf (imports : Imports) (t : TypeSyntax) : HostType :=
  match t.path? with
  | none => ⟨"", none, false⟩
  | some (qualifiers, name) =>
    match keywords.lookup name with
    | some keyword => ⟨keyword, none, false⟩
    | none => ⟨name, some (writtenOrImported imports qualifiers name), false⟩

/-- What wraps a type goes, and if a sequence is left also what wraps its element. -/
def ofStripped (imports : Imports) (t : TypeSyntax) : HostType :=
  match t.stripped.element? with
  | some e => (leaf imports e.stripped).arrayOf
  | none => leaf imports t.stripped

theorem primitive?_eq_lookup (name : String) : primitive? name = keywords.lookup name := by
  by_cases hm : name ∈ keywords.map Prod.fst
  · have hall : ∀ n ∈ keywords.map Prod.fst, primitive? n = keywords.lookup n := by decide
    exact hall name hm
  · have hn : keywords.lookup name = none := by
      rw [List.lookup_eq_none_iff]
      intro p hp
      have hne : name ≠ p.1 := fun he => hm (he ▸ List.mem_map_of_mem hp)
      simpa using hne
    simp only [keywords, List.map_cons, List.map_nil, List.mem_cons, List.not_mem_nil,
      or_false, not_or] at hm
    simp [hn, primitive?, hm]

theorem ofName_eq_leaf (qualifiers : List String) (h : t.path? = some (qualifiers, name)) :
    ofName imports qualifiers name = leaf imports t := by
  rw [ofName, primitive?_eq_lookup, leaf, h]
  dsimp only
  cases keywords.lookup name with
  | some keyword => rfl
  | none =>
    cases qualifiers with
    | nil => simp [writtenOrImported, Std.TreeMap.getD_eq_getD_getElem?]
    | cons q qs => rfl

/-! Wrappers go wherever the type stands. -/

theorem ofElement_eq_leaf_stripped (imports : Imports) (t : TypeSyntax) :
    ofElement imports t = leaf imports t.stripped := by
  induction t with
  | named qualifiers name => exact ofName_eq_leaf qualifiers rfl
  | applied qualifiers name argument ih =>
    rw [ofElement, TypeSyntax.stripped]
    by_cases hw : name ∈ wrappers
    · rw [if_pos (List.contains_iff_mem.mpr hw), if_pos hw, ih]
    · rw [if_neg (mt List.contains_iff_mem.mp hw), if_neg hw]
      exact ofName_eq_leaf qualifiers rfl
  | reference target ih => exact ih
  | paren inner ih => exact ih
  | array element => rfl
  | slice element => rfl
  | other => rfl

/-- A wrapper is no sequence, so it does not matter which of the two is asked for first. -/
theorem ofType_eq_ofStripped (imports : Imports) (t : TypeSyntax) :
    ofType imports t = ofStripped imports t := by
  induction t with
  | named qualifiers name => exact ofElement_eq_leaf_stripped imports (.named qualifiers name)
  | applied qualifiers name argument ih =>
    rw [ofType, ofStripped, TypeSyntax.stripped]
    by_cases hw : name ∈ wrappers
    · rw [if_pos (List.contains_iff_mem.mpr hw), if_pos hw, ih, ofStripped]
    · rw [if_neg (mt List.contains_iff_mem.mp hw), if_neg hw, TypeSyntax.element?]
      by_cases hs : name ∈ sequences
      · rw [if_pos (List.contains_iff_mem.mpr hs), if_pos hs, ofElement_eq_leaf_stripped]
      · rw [if_neg (mt List.contains_iff_mem.mp hs), if_neg hs]
        exact ofName_eq_leaf qualifiers rfl
  | reference target ih => exact ih
  | paren inner ih => exact ih
  | array element => rw [ofType, ofElement_eq_leaf_stripped]; rfl
  | slice element => rw [ofType, ofElement_eq_leaf_stripped]; rfl
  | other => rfl

/-! Consequences. -/

theorem stripped_of_wraps (h : Wraps u t) : u.stripped = t.stripped := by
  induction h with
  | same t => rfl
  | reference h ih => exact ih
  | paren h ih => exact ih
  | wrapper qualifiers hn h ih => rw [TypeSyntax.stripped, if_pos hn, ih]

theorem ofStripped_congr (h : u.stripped = t.stripped) :
    ofStripped imports u = ofStripped imports t := by
  rw [ofStripped, ofStripped, h]

/-- An element that is a sequence itself keeps its own name, which no rule of the mapping knows. -/
theorem mapped_arrayOf_leaf (h : t.element?.isSome) :
    (leaf imports t).arrayOf.mapped = ⟨.any, true, ""⟩ := by
  have hkeywords : ∀ name ∈ sequences, keywords.lookup name = none := by decide
  have hrules : ∀ name ∈ "" :: sequences,
    TypeMapping.rules.find? (·.pattern.accepts name) = none := by decide
  have hmap : ∀ name ∈ "" :: sequences, ∀ qualified,
      mapType name qualified true = ⟨.any, true, ""⟩ := by
    intro name hn qualified
    rw [mapType, hrules name hn]
  cases t with
  | array element => exact hmap "" List.mem_cons_self none
  | slice element => exact hmap "" List.mem_cons_self none
  | applied qualifiers name argument =>
    rw [TypeSyntax.element?] at h
    split at h
    · rename_i hs
      simp only [leaf, TypeSyntax.path?, hkeywords name hs]
      exact hmap name (List.mem_cons_of_mem _ hs) _
    · cases h
  | _ => cases h

/-- Reading a type looks through all that wraps it, and all that wraps the element of a sequence;
nothing else of the type counts but the name that is left. A sequence of sequences becomes an array
of `any`. -/
theorem ofType_reads_stripped (imports : Imports) :
    (∀ t, ofType imports t = ofStripped imports t) ∧
    (∀ u t, Wraps u t → ofType imports u = ofType imports t) ∧
    (∀ s s' u t, s.stripped.element? = some u → s'.stripped.element? = some t → Wraps u t →
      ofType imports s = ofType imports s') ∧
    (∀ t e, t.stripped.element? = some e → e.stripped.element?.isSome →
      (ofType imports t).mapped.targetType = "Array<any>" ∧
        (ofType imports t).mapped.comment = "") := by
  refine ⟨ofType_eq_ofStripped imports, ?_, ?_, ?_⟩
  · intro u t h
    rw [ofType_eq_ofStripped, ofType_eq_ofStripped]
    exact ofStripped_congr (stripped_of_wraps h)
  · intro s s' u t hs hs' h
    rw [ofType_eq_ofStripped, ofType_eq_ofStripped, ofStripped, ofStripped, hs, hs']
    dsimp only
    rw [stripped_of_wraps h]
  · intro t e ht he
    rw [ofType_eq_ofStripped, ofStripped, ht]
    dsimp only
    rw [mapped_arrayOf_leaf he]
    exact ⟨rfl, rfl⟩

example :
    ofType ∅
      (.applied ["std"] "Box" (.reference (.slice (.applied [] "Option" (.named [] "String"))))) =
    ⟨"String", none, true⟩ := by
  decide

end HostType
end ClassExport.Source
