import Std.Data.TreeMap.Lemmas
import ClassExport.ClassName
import ClassExport.Document
import ClassExport.Event

/-! Classes in order of insertion, found by qualified name or by a unique tail of one. -/
namespace ClassExport

/-- The answer to a name, and the events of the search for it. -/
structure Lookup where
  answer : Except Failure Class
  events : List Event

namespace Lookup

def found (c : Class) : Lookup := ⟨.ok c, []⟩

def missing (name : String) : Lookup := ⟨.error (.classNotFound name), []⟩

end Lookup

structure Registry where
  classes : Array Class
  /-- The position of each qualified name. -/
  index : Std.TreeMap String Nat
  indexed : ∀ q i, index[q]? = some i ↔ classes[i]?.map Class.qualifiedName = some q

namespace Registry

def empty : Registry := ⟨#[], ∅, by simp⟩

instance : Inhabited Registry := ⟨empty⟩

def size (r : Registry) : Nat := r.classes.size

def toList (r : Registry) : List Class := r.classes.toList

theorem indexed_push (r : Registry) (c : Class) (h : ¬ r.index.contains c.qualifiedName)
    (q : String) (i : Nat) :
    (r.index.insert c.qualifiedName r.classes.size)[q]? = some i ↔
      (r.classes.push c)[i]?.map Class.qualifiedName = some q := by
  have hc : r.index[c.qualifiedName]? = none :=
    Std.TreeMap.getElem?_eq_none_of_contains_eq_false (Bool.eq_false_iff.mpr h)
  have hq := r.indexed q
  rw [Std.TreeMap.getElem?_insert, Array.getElem?_push]
  by_cases he : c.qualifiedName = q
  · subst he
    have hi : i ≠ r.classes.size →
        ¬ r.classes[i]?.map Class.qualifiedName = some c.qualifiedName := by
      intro _ hm
      simp [(hq i).2 hm] at hc
    by_cases hn : i = r.classes.size
    · simp [hn]
    · simpa [hn, Ne.symm hn] using hi hn
  · by_cases hn : i = r.classes.size
    · subst hn
      simp [he, hq]
    · simp [he, hn, hq]

/-- Adds a class; the first class of a qualified name stays, and the answer tells whether this one
came in. -/
def insert (r : Registry) (c : Class) : Bool × Registry :=
  if h : r.index.contains c.qualifiedName then (false, r)
  else (true, ⟨r.classes.push c, r.index.insert c.qualifiedName r.classes.size,
    r.indexed_push c h⟩)

def insertAll (r : Registry) (classes : List Class) : Registry :=
  classes.foldl (fun r c => (r.insert c).2) r

def ofList (classes : List Class) : Registry := empty.insertAll classes

def known (r : Registry) : List String := r.toList.map Class.qualifiedName

def find? (r : Registry) (qualified : String) : Option Class :=
  r.index[qualified]?.bind (r.classes[·]?)

def endingWith (r : Registry) (tail : String) : List Class :=
  r.toList.filter fun c => ClassName.endsWithTail c.qualifiedName tail

/-- The only candidate for a name. More than one are not an answer, and the log tells so. -/
def pick (name : String) : List Class → Lookup
  | [] => .missing name
  | [c] => .found c
  | cs => ⟨.error (.ambiguousClass name (cs.map Class.qualifiedName)), [.ambiguous name]⟩

/-- The class of the normalized name, or else the only class whose qualified name ends with it. -/
def lookup (r : Registry) (name : String) : Lookup :=
  let normalized := ClassName.normalize name
  match r.find? normalized with
  | some c => .found c
  | none =>
    let tail := ClassName.tail normalized
    if tail = "" then .missing name else pick name (r.endingWith tail)

def resolve (r : Registry) (name : String) : Except Failure Class := (r.lookup name).answer

def ofJsonText (text : String) : Except Failure Registry :=
  match Document.ofText text with
  | .ok classes => .ok (ofList classes)
  | .error fault => .error (.json fault)

def toJsonText (r : Registry) : String := Document.toText r.toList

end Registry
end ClassExport
