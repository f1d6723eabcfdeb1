import ClassExport.Proofs.ImportTable
import ClassExport.Proofs.Visibility
import ClassExport.Proofs.Words
import ClassExport.Proofs.Wrapping

/-!
Raw identifiers: the mark `r#` goes from the names of fields, and stays where a struct, a module, a
type or an import is named.
-/
namespace ClassExport

open Source

namespace Source

/-- The text begins with the mark of a raw identifier. -/
def IsRaw (cs : List Char) : Prop := ['r', '#'] <+: cs

instance : DecidablePred IsRaw := fun cs => inferInstanceAs (Decidable (['r', '#'] <+: cs))

/-- No segment is raw; the segments are what stands between separators. -/
def PlainSegments (sep : Char) (cs : List Char) : Prop :=
  ∀ segment ∈ Text.pieces sep cs, ¬ IsRaw segment

instance (sep : Char) : DecidablePred (PlainSegments sep) := fun cs =>
  inferInstanceAs (Decidable (∀ segment ∈ Text.pieces sep cs, ¬ IsRaw segment))

/-- The type that gives a field its names: what wraps it goes, and if a sequence is left also what
wraps its element. -/
def TypeSyntax.core (t : TypeSyntax) : TypeSyntax :=
  match t.stripped.element? with
  | some e => e.stripped
  | none => t.stripped

/-- The segments that a path stands for among items: those that are written if there are more than
one, and for a single name those of the last import that binds it, if any does. -/
inductive StandsFor (scope : List Item) : List String → String → List String → Prop where
  | written (q : String) (qualifiers : List String) (name : String) :
      StandsFor scope (q :: qualifiers) name (q :: qualifiers ++ [name])
  | imported {name : String} {address : List Nat} {l : Leaf}
      (h : LastBinding (ImportedAt scope) name address l) :
      StandsFor scope [] name l.segments
  | bare {name : String} (h : ∀ address l, ImportedAt scope address l → l.bound ≠ name) :
      StandsFor scope [] name [name]

/-- The identifiers of source text that show in the names of a type: its own one, and those of what
it stands for. A primitive type shows none. -/
inductive Shows (scope : List Item) (t : TypeSyntax) : String → Prop where
  | name {qualifiers : List String} {name : String} (h : t.core.path? = some (qualifiers, name))
      (hn : HostType.primitive? name = none) : Shows scope t name
  | path {qualifiers segments : List String} {name s : String}
      (h : t.core.path? = some (qualifiers, name))
      (hn : HostType.primitive? name = none) (hp : StandsFor scope qualifiers name segments)
        (hs : s ∈ segments) :
      Shows scope t s

/-- No identifier that shows in the class of a struct is raw: not its name, no module around it, and
none that shows in the types of its fields. The names of the fields do not count. -/
structure WrittenPlain (modules : List String) (scope : List Item) (name : String)
    (body : StructBody) : Prop where
  path : ∀ s ∈ modules ++ [name], ¬ IsRaw s.toList
  types : ∀ f ∈ body.written, ∀ s, Shows scope f.type s → ¬ IsRaw s.toList

end Source

structure Field.Plain (f : Field) : Prop where
  name : ¬ IsRaw f.name.toList
  typeName : ¬ IsRaw f.typeName.toList
  qualifiedTypeName : ∀ q, f.qualifiedTypeName = some q → PlainSegments ':' q.toList

/-- No name in the class begins with the mark of a raw identifier. -/
structure Class.Plain (c : Class) : Prop where
  name : ¬ IsRaw c.name.toList
  package : PlainSegments '.' c.package.toList
  fields : ∀ f ∈ c.fields, f.Plain

namespace Source

variable {cs xs ys seps : List Char} {sep : Char} {ls : List (List Char)} {t : TypeSyntax}
  {name package text : String} {modules qualifiers segments : List String} {items scope : List Item}
  {address : List Nat} {l : Leaf} {tree : UseTree} {body : StructBody} {c : Class}

/-! Segments of joined texts. -/

theorem not_isRaw_nil : ¬ IsRaw [] := by decide

theorem plainSegments_nil : PlainSegments sep [] := by
  intro segment hs
  rw [List.mem_singleton.mp hs]
  exact not_isRaw_nil

theorem plainSegments_append_cons :
    PlainSegments sep (xs ++ sep :: ys) ↔ PlainSegments sep xs ∧ PlainSegments sep ys := by
  rw [PlainSegments, Text.pieces_append_cons, List.forall_mem_append]
  rfl

theorem plainSegments_append_seps (h : ∀ c ∈ seps, c = sep) :
    PlainSegments sep (seps ++ ys) ↔ PlainSegments sep ys := by
  induction seps with
  | nil => rfl
  | cons c seps ih =>
    obtain ⟨rfl, hseps⟩ := List.forall_mem_cons.mp h
    have hcons : PlainSegments c ([] ++ c :: (seps ++ ys)) ↔ _ := plainSegments_append_cons
    exact hcons.trans ((and_iff_right plainSegments_nil).trans (ih hseps))

/-- A separator of two characters makes empty segments, which are not raw. -/
theorem plainSegments_intercalate (hseps : seps ≠ []) (h : ∀ c ∈ seps, c = sep) :
    PlainSegments sep (seps.intercalate ls) ↔ ∀ l ∈ ls, PlainSegments sep l := by
  induction ls with
  | nil => exact iff_of_true plainSegments_nil (List.forall_mem_nil _)
  | cons l ls ih =>
    cases ls with
    | nil => simp
    | cons l' ls =>
      obtain ⟨c, more, rfl⟩ := List.exists_cons_of_ne_nil hseps
      obtain ⟨rfl, hmore⟩ := List.forall_mem_cons.mp h
      rw [List.intercalate_cons_cons, List.append_assoc, List.cons_append,
        plainSegments_append_cons, plainSegments_append_seps hmore, ih,
          List.forall_mem_cons (a := l)]

theorem plainSegments_of_notMem (h : sep ∉ cs) : PlainSegments sep cs ↔ ¬ IsRaw cs := by
  rw [PlainSegments, Text.pieces_eq_splitOn, List.splitOn_eq_singleton h]
  simp

/-! Words. -/

theorem not_isRaw_of_isIdentifier (h : Text.isIdentifier cs) : ¬ IsRaw cs := by
  intro hr
  have hash := Text.isIdentifierPart_of_mem h
    (hr.subset (List.mem_cons_of_mem _ List.mem_cons_self) : '#' ∈ cs)
  exact absurd hash (by decide)

theorem not_isRaw_iff_of_isWord (h : isWord cs) : ¬ IsRaw cs ↔ Text.isIdentifier cs := by
  refine ⟨fun hn => ?_, not_isRaw_of_isIdentifier⟩
  rcases isIdentifier_or_raw_of_isWord h with hi | ⟨plain, rfl, -⟩
  · exact hi
  · exact (hn ⟨plain, rfl⟩).elim

theorem isIdentifier_dropRawMark (h : isWord cs) : Text.isIdentifier (dropRawMark cs) := by
  have hdrop : ∀ {plain}, Text.isIdentifier plain → dropRawMark plain = plain := by
    intro plain hi
    exact dropRawMark_eq_iff.mpr ⟨⟨0, rfl⟩, not_isRaw_of_isIdentifier hi⟩
  rcases isIdentifier_or_raw_of_isWord h with hi | ⟨plain, rfl, hi⟩
  · rwa [hdrop hi]
  · rwa [dropRawMark, hdrop hi]

/-- Words are joined by characters that no word has, so that each is a segment of its own. -/
theorem plainSegments_word (hs : sep = '.' ∨ sep = ':') (h : isWord cs) :
    PlainSegments sep cs ↔ ¬ IsRaw cs := by
  apply plainSegments_of_notMem
  intro hm
  have hsep : ¬ Text.isIdentifierPart sep ∧ sep ≠ '#' := by
    rcases hs with rfl | rfl <;> decide
  rcases isIdentifierPart_or_eq_of_mem h hm with hpart | hash
  · exact hsep.1 hpart
  · exact hsep.2 hash

theorem plainSegments_pathText (h : ∀ s ∈ segments, isWord s.toList) :
    PlainSegments ':' (Imports.pathText segments).toList ↔ ∀ s ∈ segments,
      ¬ IsRaw s.toList := by
  rw [Imports.pathText, String.toList_intercalate, plainSegments_intercalate (by decide) (by simp),
    List.forall_mem_map]
  exact forall₂_congr fun s hs => plainSegments_word (Or.inr rfl) (h s hs)

theorem ne_empty_of_isWord {s : String} (h : isWord s.toList) : s ≠ "" := by
  rintro rfl
  cases h

theorem dropWhile_words (h : ∀ s ∈ modules, isWord s.toList) :
    modules.dropWhile (· = "") = modules := by
  cases modules with
  | nil => rfl
  | cons m modules =>
    exact List.dropWhile_cons_of_neg (by simpa using ne_empty_of_isWord (h m List.mem_cons_self))

/-- The dots of the package that is given are separators as well. -/
theorem plainSegments_packageWithin (hp : '#' ∉ package.toList)
    (h : ∀ s ∈ modules, isWord s.toList) :
    PlainSegments '.' (packageWithin package modules).toList ↔ ∀ s ∈ modules,
      ¬ IsRaw s.toList := by
  have hmodules : (∀ cs ∈ modules.map String.toList, PlainSegments '.' cs) ↔
      ∀ s ∈ modules, ¬ IsRaw s.toList := by
    rw [List.forall_mem_map]
    exact forall₂_congr fun s hs => plainSegments_word (Or.inl rfl) (h s hs)
  have hpackage : PlainSegments '.' package.toList := by
    intro segment hs hr
    have hash : '#' ∈ segment := hr.subset (List.mem_cons_of_mem _ List.mem_cons_self)
    exact hp (Text.mem_of_mem_pieces hs hash)
  rw [packageWithin, String.toList_intercalate, plainSegments_intercalate (by decide) (by simp)]
  by_cases he : package = ""
  · rw [List.dropWhile_cons_of_pos (by simpa using he), dropWhile_words h]
    exact hmodules
  · rw [List.dropWhile_cons_of_neg (by simpa using he), List.map_cons, List.forall_mem_cons]
    exact (and_iff_right hpackage).trans hmodules

/-! What is read of source text is made of words. -/

theorem UseTree.Worded.leaf (h : tree.Worded) (hl : LeafAt tree address l) :
    ∀ s ∈ l.segments, isWord s.toList := by
  induction hl with
  | name name =>
    cases h with
    | name h => simpa [Leaf.segments] using h
  | rename name newName =>
    cases h with
    | rename h => simpa [Leaf.segments] using h
  | path outer _ ih =>
    cases h with
    | path ho ht => exact List.forall_mem_cons.mpr ⟨ho, ih ht⟩
  | group hi _ ih =>
    cases h with
    | group h => exact ih (h _ (List.mem_of_getElem? hi))

theorem words_of_importedAt (hw : ∀ item ∈ scope, item.Worded)
    (h : ImportedAt scope address l) :
    ∀ s ∈ l.segments, isWord s.toList := by
  cases h with
  | use hi hl =>
    cases hw _ (List.mem_of_getElem? hi) with
    | use ht => exact ht.leaf hl

theorem TypeSyntax.Worded.stripped (h : t.Worded) : t.stripped.Worded := by
  induction h with
  | named h => exact .named h
  | applied h ha ih =>
    rw [TypeSyntax.stripped]
    split
    · exact ih
    · exact .applied h ha
  | reference _ ih => exact ih
  | paren _ ih => exact ih
  | array h => exact .array h
  | slice h => exact .slice h
  | other => exact .other

theorem TypeSyntax.Worded.core (h : t.Worded) : t.core.Worded := by
  rw [TypeSyntax.core]
  cases he : t.stripped.element? with
  | none => exact h.stripped
  | some e =>
    suffices hw : e.Worded from hw.stripped
    have hs := h.stripped
    generalize t.stripped = u at he hs
    cases hs with
    | array hw =>
      cases he
      exact hw
    | slice hw =>
      cases he
      exact hw
    | applied hn ha =>
      rw [TypeSyntax.element?] at he
      split at he
      · cases he
        exact ha
      · cases he
    | _ => cases he

theorem TypeSyntax.Worded.path (h : t.Worded) (hp : t.path? = some (qualifiers, name)) :
    ∀ s ∈ qualifiers ++ [name], isWord s.toList := by
  cases h with
  | named h =>
    cases hp
    exact h
  | applied h =>
    cases hp
    exact h
  | _ => cases hp

/-- The items around a struct and the fields in it are made of words. -/
theorem StructAt.worded (h : StructAt items address modules scope name body)
    (hw : ∀ item ∈ items, item.Worded) :
    (∀ item ∈ scope, item.Worded) ∧ ∀ f ∈ body.written, f.Worded := by
  induction h with
  | @here items i name body h =>
    refine ⟨hw, ?_⟩
    cases hw _ (List.mem_of_getElem? h) with
    | struct _ hf =>
      cases body with
      | named fields => exact hf fields rfl
      | _ => exact List.forall_mem_nil _
  | inside h _ ih =>
    cases hw _ (List.mem_of_getElem? h) with
    | module _ hs => exact ih (hs _ rfl)

/-! The names of a field. -/

theorem ofType_names (imports : Imports) (t : TypeSyntax) :
    (HostType.ofType imports t).simpleName = (HostType.leaf imports t.core).simpleName ∧
    (HostType.ofType imports t).qualifiedName = (HostType.leaf imports t.core).qualifiedName := by
  rw [HostType.ofType_eq_ofStripped, HostType.ofStripped, TypeSyntax.core]
  cases t.stripped.element? with
  | none => exact ⟨rfl, rfl⟩
  | some e => exact ⟨rfl, rfl⟩

theorem ofType_of_named (imports : Imports) (hp : t.core.path? = some (qualifiers, name))
    (hn : HostType.primitive? name = none) :
    (HostType.ofType imports t).simpleName = name ∧
    (HostType.ofType imports t).qualifiedName =
      some (HostType.writtenOrImported imports qualifiers name) := by
  obtain ⟨hs, hq⟩ := ofType_names imports t
  rw [HostType.primitive?_eq_lookup] at hn
  rw [hs, hq, HostType.leaf, hp]
  dsimp only
  rw [hn]
  exact ⟨rfl, rfl⟩

/-- Keywords of primitive types, and the empty name, are not raw. -/
theorem ofType_of_not_named (imports : Imports)
    (h : ∀ qualifiers name, t.core.path? = some (qualifiers, name) →
    HostType.primitive? name ≠ none) :
    ¬ IsRaw (HostType.ofType imports t).simpleName.toList ∧
      (HostType.ofType imports t).qualifiedName = none := by
  obtain ⟨hs, hq⟩ := ofType_names imports t
  rw [hs, hq, HostType.leaf]
  cases hp : t.core.path? with
  | none => exact ⟨not_isRaw_nil, rfl⟩
  | some path =>
    obtain ⟨qualifiers, name⟩ := path
    have hkeywords : ∀ p ∈ HostType.keywords, ¬ IsRaw p.2.toList := by decide
    have hn := h qualifiers name hp
    rw [HostType.primitive?_eq_lookup] at hn
    obtain ⟨keyword, hk⟩ := Option.ne_none_iff_exists'.mp hn
    obtain ⟨before, after, hm, -⟩ := List.lookup_eq_some_iff.mp hk
    dsimp only
    rw [hk]
    exact ⟨hkeywords (name, keyword) (hm ▸ List.mem_append_cons_self), rfl⟩

theorem exists_standsFor (scope : List Item) (qualifiers : List String) (name : String) :
    ∃ segments, StandsFor scope qualifiers name segments := by
  cases qualifiers with
  | cons q qualifiers => exact ⟨_, .written q qualifiers name⟩
  | nil =>
    rcases Imports.exists_last_or_unbound scope name with ⟨address, l, h⟩ | h
    · exact ⟨_, .imported h⟩
    · exact ⟨_, .bare h⟩

theorem StandsFor.writtenOrImported_eq (h : StandsFor scope qualifiers name segments) :
    HostType.writtenOrImported (Imports.ofItems scope) qualifiers name =
      Imports.pathText segments := by
  cases h with
  | written => rfl
  | imported h =>
    rw [HostType.writtenOrImported, Std.TreeMap.get?_eq_getElem?,
      Imports.getElem?_ofItems_of_last h]
    rfl
  | bare h =>
    rw [HostType.writtenOrImported, Std.TreeMap.get?_eq_getElem?,
      Imports.getElem?_ofItems_of_unbound h]
    rfl

theorem StandsFor.words (h : StandsFor scope qualifiers name segments)
    (hscope : ∀ item ∈ scope, item.Worded)
    (hw : ∀ s ∈ qualifiers ++ [name], isWord s.toList) :
    ∀ s ∈ segments, isWord s.toList := by
  cases h with
  | written => exact hw
  | imported h => exact words_of_importedAt hscope h.stands
  | bare => exact hw

/-- The names that a field has for its type show no other identifiers. -/
theorem plainType_iff (hw : t.Worded) (hscope : ∀ item ∈ scope, item.Worded) :
    (¬ IsRaw (HostType.ofType (Imports.ofItems scope) t).simpleName.toList ∧
      ∀ q, (HostType.ofType (Imports.ofItems scope) t).qualifiedName = some q →
        PlainSegments ':' q.toList) ↔
    ∀ s, Shows scope t s → ¬ IsRaw s.toList := by
  have hsegments : ∀ {qualifiers name segments}, t.core.path? = some (qualifiers, name) →
      StandsFor scope qualifiers name segments →
      (PlainSegments ':'
        (HostType.writtenOrImported (Imports.ofItems scope) qualifiers name).toList ↔
        ∀ s ∈ segments, ¬ IsRaw s.toList) := by
    intro qualifiers name segments hp hstands
    rw [hstands.writtenOrImported_eq]
    exact plainSegments_pathText (hstands.words hscope (hw.core.path hp))
  constructor
  · rintro ⟨hname, hall⟩ s (⟨hp, hn⟩ | ⟨hp, hn, hstands, hs⟩)
    · obtain ⟨hsimple, -⟩ := ofType_of_named (Imports.ofItems scope) hp hn
      rwa [hsimple] at hname
    · obtain ⟨-, hqualified⟩ := ofType_of_named (Imports.ofItems scope) hp hn
      exact (hsegments hp hstands).mp (hall _ hqualified) s hs
  · intro hall
    by_cases hnamed : ∃ qualifiers name, t.core.path? = some (qualifiers, name) ∧
      HostType.primitive? name = none
    · obtain ⟨qualifiers, name, hp, hn⟩ := hnamed
      obtain ⟨hsimple, hqualified⟩ := ofType_of_named (Imports.ofItems scope) hp hn
      obtain ⟨segments, hstands⟩ := exists_standsFor scope qualifiers name
      rw [hsimple, hqualified]
      refine ⟨hall name (.name hp hn), ?_⟩
      rintro _ ⟨⟩
      exact (hsegments hp hstands).mpr fun s hs => hall s (.path hp hn hstands hs)
    · obtain ⟨hname, hqualified⟩ :=
        ofType_of_not_named (Imports.ofItems scope) fun qualifiers name hp hn =>
        hnamed ⟨qualifiers, name, hp, hn⟩
      refine ⟨hname, fun q hq => ?_⟩
      cases hqualified.symm.trans hq

theorem ReadsField.plain_iff {f : FieldSyntax} {field : Field}
    (h : ReadsField (usesOf scope) f field) (hw : f.Worded)
    (hscope : ∀ item ∈ scope, item.Worded) :
    field.Plain ↔ ∀ s, Shows scope f.type s → ¬ IsRaw s.toList := by
  have ht := h.type
  rw [← ofItems_eq] at ht
  rw [← plainType_iff hw.type hscope, ← ht]
  exact ⟨fun hf => ⟨hf.typeName, hf.qualifiedTypeName⟩, fun ⟨hn, hq⟩ =>
    ⟨h.plain, hn, hq⟩⟩

theorem ReadsField.isIdentifier {uses : List UseTree} {f : FieldSyntax} {field : Field}
    (h : ReadsField uses f field) (hw : f.Worded) : Text.isIdentifier field.name.toList := by
  rw [← dropRawMark_eq_iff.mpr ⟨h.name, h.plain⟩]
  exact isIdentifier_dropRawMark hw.name

theorem ReadsBody.fields_eq {uses : List UseTree} {fields : List Field}
    (h : ReadsBody uses body fields) :
    fields = body.written.map (·.field (Imports.bindAll [] uses ∅)) := by
  have hf := readsBody_iff.mp h
  cases body with
  | named written => exact (Option.some.inj hf).symm
  | unit => exact (Option.some.inj hf).symm
  | tuple => cases hf

/-- A class has plain names just when its struct shows no raw identifier. -/
theorem StructAt.plain_iff (h : StructAt items address modules scope c.name body)
    (hw : ∀ item ∈ items, item.Worded) (hp : '#' ∉ package.toList)
    (hc : c.package = packageWithin package modules) (hb : ReadsBody (usesOf scope) body c.fields) :
    c.Plain ↔ WrittenPlain modules scope c.name body := by
  obtain ⟨hscope, hfields⟩ := h.worded hw
  have hpackage : PlainSegments '.' c.package.toList ↔ ∀ s ∈ modules, ¬ IsRaw s.toList := by
    rw [hc]
    exact plainSegments_packageWithin hp fun s hs => h.words hw s (List.mem_append_left _ hs)
  have hread : (∀ f ∈ c.fields, f.Plain) ↔ ∀ f ∈ body.written, ∀ s,
      Shows scope f.type s → ¬ IsRaw s.toList := by
    rw [hb.fields_eq, List.forall_mem_map]
    exact forall₂_congr fun f hf => (readsField_iff.mpr rfl).plain_iff (hfields f hf) hscope
  constructor
  · rintro ⟨hname, hpath, htypes⟩
    refine ⟨fun s hs => ?_, hread.mp htypes⟩
    rcases List.mem_append.mp hs with hs | hs
    · exact hpackage.mp hpath s hs
    · rwa [List.mem_singleton.mp hs]
  · rintro ⟨hpath, htypes⟩
    exact ⟨hpath c.name List.mem_concat_self, hpackage.mpr fun s hs =>
      hpath s (List.mem_append_left _ hs), hread.mpr htypes⟩

/-- The names of fields are identifiers, also where a raw one is written. Another name in the
classes of a text begins with the mark of a raw identifier just where one that is written raw shows:
in the name of a struct that is a class, of a module around it, or of the type of a field in it. -/
theorem classes_plain_iff (hp : '#' ∉ package.toList) (h : items? text = some items) :
    ∃ cs, classes text package = .ok cs ∧
      (∀ c ∈ cs, (Text.isIdentifier c.name.toList ↔ ¬ IsRaw c.name.toList) ∧
        ∀ f ∈ c.fields, Text.isIdentifier f.name.toList) ∧
      ((∀ c ∈ cs, c.Plain) ↔ ∀ address modules scope name body,
        StructAt items address modules scope name body → body ≠ .tuple →
          WrittenPlain modules scope name body) := by
  have hw := worded_of_items? h
  refine ⟨classesOf package items, classes_eq_ok package h, fun c hc => ?_, fun hall => ?_,
    fun hall c hc => ?_⟩
  · obtain ⟨address, modules, scope, body, hs, -, hb⟩ := mem_classesOf_iff.mp hc
    refine ⟨(not_isRaw_iff_of_isWord (hs.words hw c.name List.mem_concat_self)).symm, ?_⟩
    rw [hb.fields_eq, List.forall_mem_map]
    intro f hf
    exact (readsField_iff.mpr rfl).isIdentifier ((hs.worded hw).2 f hf)
  · intro address modules scope name body hs hbody
    obtain ⟨fields, hd⟩ := hs.exists_declaredAt hbody package
    have hplain := hall _ (mem_classesOf_iff.mpr ⟨address, hd⟩)
    obtain ⟨modules', scope', body', hs', hc, hb⟩ := hd
    obtain ⟨rfl, rfl, -, rfl⟩ := hs.unique hs'
    exact (hs'.plain_iff hw hp hc hb).mp hplain
  · obtain ⟨address, modules, scope, body, hs, hpackage, hb⟩ := mem_classesOf_iff.mp hc
    exact (hs.plain_iff hw hp hpackage hb).mpr
      (hall address modules scope c.name body hs hb.ne_tuple)

/-- Only a field is named by a raw identifier here. -/
def rawFieldText : String := "mod m \x7b use a::U; struct S \x7b r#type: U \x7d \x7d"

theorem classes_plain_of_rawField :
    ∃ items, '#' ∉ "p".toList ∧ items? rawFieldText = some items ∧
    classes rawFieldText "p" =
      .ok [⟨"S", "p.m", [⟨"type", "U", some "a::U", false, .single .privateAccess⟩]⟩] ∧
    ∀ address modules scope name body, StructAt items address modules scope name body →
      body ≠ .tuple →
      WrittenPlain modules scope name body := by
  have hs : (items? rawFieldText).isSome := by decide +kernel
  obtain ⟨items, h⟩ := Option.isSome_iff_exists.mp hs
  have hp : '#' ∉ "p".toList := by decide
  have hclasses : classes rawFieldText "p" =
      .ok [⟨"S", "p.m", [⟨"type", "U", some "a::U", false, .single .privateAccess⟩]⟩] := by
    decide +kernel
  obtain ⟨cs, hcs, -, hiff⟩ := classes_plain_iff hp h
  obtain rfl := Except.ok.inj (hclasses.symm.trans hcs)
  refine ⟨items, hp, h, hclasses, hiff.mp ?_⟩
  intro c hc
  obtain rfl := List.mem_singleton.mp hc
  refine ⟨by decide, by decide, ?_⟩
  intro f hf
  obtain rfl := List.mem_singleton.mp hf
  refine ⟨by decide, by decide, ?_⟩
  rintro _ ⟨⟩
  decide

/-- A raw identifier in each place. -/
def rawText : String :=
  "mod r#try \x7b use r#in::U; struct r#type \x7b r#final: r#T, u: U \x7d \x7d"

/-- The class that the text declares. -/
def rawClass : Class where
  name := "r#type"
  package := "p.r#try"
  fields := [
    ⟨"final", "r#T", some "r#T", false, .single .privateAccess⟩,
    ⟨"u", "U", some "r#in::U", false, .single .privateAccess⟩]

/-- All but the name of the field keep the mark. -/
theorem classes_keep_raw_names : '#' ∉ "p".toList ∧ classes rawText "p" = .ok [rawClass] ∧
    IsRaw rawClass.name.toList ∧ ¬ PlainSegments '.' rawClass.package.toList ∧
    (∃ f ∈ rawClass.fields, IsRaw f.typeName.toList) ∧
    (∃ f ∈ rawClass.fields, ¬ IsRaw f.typeName.toList ∧
      ∃ q, f.qualifiedTypeName = some q ∧ ¬ PlainSegments ':' q.toList) ∧
    ∀ f ∈ rawClass.fields, ¬ IsRaw f.name.toList := by
  refine ⟨by decide, by decide +kernel, by decide, by decide, by decide, ?_, by decide⟩
  exact ⟨_, List.mem_cons_of_mem _ List.mem_cons_self, by decide, "r#in::U", rfl, by decide⟩

end Source
end ClassExport
