import ClassExport.Emission
import ClassExport.Proofs.PathParts
import ClassExport.Proofs.References

/-! From the text of an exported class everything that was written into it is read off again. -/
namespace ClassExport

/-- What a line says of a field. -/
structure Member where
  name : String
  typeText : String
  comment : String
deriving DecidableEq, Repr

/-- What the text of a class says. -/
structure Declaration where
  namespaceName : Option String
  name : String
  members : List Member
deriving DecidableEq, Repr

def Field.member (f : Field) : Member := ⟨f.name, f.mapped.targetType, f.mapped.comment⟩

def Class.declaration (c : Class) (s : EmitSettings) : Declaration where
  namespaceName := if s.wrapInNamespace then some (s.namespaceOf c) else none
  name := c.name
  members := (c.fields.filter s.emits).map Field.member

namespace Text

variable {sep : Char} {lines : List String}

/-- The text between one that it begins with and one that it ends with. -/
def between? (prior last : String) (cs : List Char) : Option String := do
  let rest ← dropPrior? prior.toList cs
  let inner ← dropPrior? last.toList.reverse rest.reverse
  return String.ofList inner.reverse

/-- The text before a mark that a space follows, and the text after the two. -/
def before? (mark : Char) (cs : List Char) : Option (String × List Char) :=
  let (head, rest) := cs.span (· != mark)
  (dropPrior? [mark, ' '] rest).map fun rest => (String.ofList head, rest)

/-- The lines of a text of which each ends with a line feed. -/
def lines? (text : String) : Option (List (List Char)) :=
  let ps := pieces '\n' text.toList
  if ps.getLast? = some [] then some ps.dropLast else none

theorem dropPrior?_append (ps cs : List Char) : dropPrior? ps (ps ++ cs) = some cs := by
  induction ps with
  | nil => rfl
  | cons p ps ih => rw [List.cons_append, dropPrior?, if_pos rfl, ih]

theorem between?_append (prior name last : String) :
    between? prior last (prior ++ name ++ last).toList = some name := by
  rw [between?, String.toList_append, String.toList_append, List.append_assoc, dropPrior?_append]
  simp only [Option.bind_eq_bind, Option.bind_some, List.reverse_append, dropPrior?_append,
    List.reverse_reverse, String.ofList_toList]
  rfl

theorem before?_append {mark : Char} {head : String} (h : mark ∉ head.toList) (rest : List Char) :
    before? mark (head.toList ++ mark :: ' ' :: rest) = some (head, rest) := by
  have hp : ∀ c ∈ head.toList, (c != mark) = true :=
    fun c hc => bne_iff_ne.mpr (ne_of_mem_of_not_mem hc h)
  rw [before?, span_append hp (bne_self_eq_false mark)]
  change (dropPrior? [mark, ' '] ([mark, ' '] ++ rest)).map _ = _
  rw [dropPrior?_append, Option.map_some, String.ofList_toList]

theorem pieces_append {xs : List Char} (h : sep ∉ xs) (ys : List Char) :
    pieces sep (xs ++ sep :: ys) = xs :: pieces sep ys := by
  induction xs with
  | nil => rw [List.nil_append, pieces, if_pos rfl]
  | cons x xs ih =>
    obtain ⟨hx, hxs⟩ := List.ne_and_not_mem_of_not_mem_cons h
    rw [List.cons_append, pieces, if_neg hx.symm, ih hxs]

theorem intercalate_concat (hn : lines ≠ []) :
    ("\n".intercalate lines ++ "\n").toList = lines.flatMap fun l => l.toList ++ ['\n'] := by
  rw [String.toList_append, String.toList_intercalate]
  induction lines with
  | nil => exact (hn rfl).elim
  | cons l lines ih =>
    cases lines with
    | nil => simp
    | cons l' lines =>
      rw [List.map_cons, List.map_cons, List.intercalate_cons_cons, ← List.map_cons,
        List.append_assoc, ih (by simp), List.flatMap_cons (x := l)]
      rfl

theorem lines?_intercalate (hn : lines ≠ []) (h : ∀ l ∈ lines, '\n' ∉ l.toList) :
    lines? ("\n".intercalate lines ++ "\n") = some (lines.map String.toList) := by
  have hp : pieces '\n' ("\n".intercalate lines ++ "\n").toList =
      lines.map String.toList ++ [[]] := by
    rw [intercalate_concat hn]
    clear hn
    induction lines with
    | nil => rfl
    | cons l lines ih =>
      rw [List.flatMap_cons, List.append_assoc, List.singleton_append,
        pieces_append (h l List.mem_cons_self), ih fun l' hl => h l' (List.mem_cons_of_mem _ hl)]
      rfl
  rw [lines?, hp, List.getLast?_concat, List.dropLast_concat]
  exact if_pos rfl

end Text

namespace Member

def line (m : Member) : String :=
  "\tpublic " ++ m.name ++ ": " ++ m.typeText ++ "; " ++ if m.comment = "" then ""
    else "// " ++ m.comment

def comment? (cs : List Char) : Option String :=
  if cs.isEmpty then some "" else (Text.dropPrior? "// ".toList cs).map String.ofList

/-- The name ends at the first colon, the type at the first semicolon after it, and the comment with
the line. -/
def ofLine? (cs : List Char) : Option Member := do
  let cs ← Text.dropPrior? "\tpublic ".toList cs
  let (name, cs) ← Text.before? ':' cs
  let (typeText, cs) ← Text.before? ';' cs
  let comment ← comment? cs
  return ⟨name, typeText, comment⟩

/-- A member whose line can be read again. -/
structure Legible (m : Member) : Prop where
  name : ∀ c ∈ m.name.toList, c ≠ '\n' ∧ c ≠ ':'
  typeText : ∀ c ∈ m.typeText.toList, c ≠ '\n' ∧ c ≠ ';'
  comment : '\n' ∉ m.comment.toList

variable {m : Member}

theorem comment?_written (comment : String) :
    comment? (if comment = "" then "" else "// " ++ comment).toList = some comment := by
  by_cases hc : comment = ""
  · rw [if_pos hc, hc]
    rfl
  · rw [if_neg hc, String.toList_append, comment?, Text.dropPrior?_append, Option.map_some,
      String.ofList_toList]
    rfl

theorem ofLine?_line (h : m.Legible) : ofLine? m.line.toList = some m := by
  have hn : ':' ∉ m.name.toList := fun hm => (h.name _ hm).2 rfl
  have ht : ';' ∉ m.typeText.toList := fun hm => (h.typeText _ hm).2 rfl
  have hline : m.line.toList = "\tpublic ".toList ++ (m.name.toList ++ ':' :: ' ' ::
      (m.typeText.toList ++ ';' :: ' ' ::
        (if m.comment = "" then "" else "// " ++ m.comment).toList)) := by
    simp [line]
  rw [ofLine?, hline]
  simp only [Option.bind_eq_bind, Text.dropPrior?_append, Text.before?_append hn,
    Text.before?_append ht, comment?_written, Option.bind_some]
  rfl

theorem notMem_line (h : m.Legible) : '\n' ∉ m.line.toList := by
  have hn : '\n' ∉ m.name.toList := fun hm => (h.name _ hm).1 rfl
  have ht : '\n' ∉ m.typeText.toList := fun hm => (h.typeText _ hm).1 rfl
  by_cases hc : m.comment = "" <;> simp [line, hc, hn, ht, h.comment]

end Member

namespace Declaration

/-- Lines between a heading and a closing brace. -/
def block (kind name : String) (inside : List String) : List String :=
  (kind ++ " " ++ name ++ " \x7b") :: inside ++ ["\x7d"]

def lines (d : Declaration) : List String :=
  let inner := block "export class" d.name (d.members.map Member.line)
  match d.namespaceName with
  | some name => block "namespace" name inner
  | none => inner

def text (d : Declaration) : String := "\n".intercalate d.lines ++ "\n"

/-- The name in the heading of a block, and the lines inside it. -/
def block? (kind : String) : List (List Char) → Option (String × List (List Char))
  | [] => none
  | heading :: rest =>
    if rest.getLast? = some ['\x7d'] then
      (Text.between? (kind ++ " ") " \x7b" heading).map fun name => (name, rest.dropLast)
    else none

/-- Reads the text of a class. A class outside a namespace does not begin like one. -/
def ofText? (text : String) : Option Declaration := do
  let lines ← Text.lines? text
  let (namespaceName, inner) := match block? "namespace" lines with
    | some (name, inner) => (some name, inner)
    | none => (none, lines)
  let (name, inside) ← block? "export class" inner
  let members ← inside.mapM Member.ofLine?
  return ⟨namespaceName, name, members⟩

/-- A declaration whose text can be read again. -/
structure Legible (d : Declaration) : Prop where
  namespaceName : ∀ name, d.namespaceName = some name → '\n' ∉ name.toList
  name : '\n' ∉ d.name.toList
  members : ∀ m ∈ d.members, m.Legible

variable {kind name : String} {inside : List String} {members : List Member} {d : Declaration}

theorem block?_block :
    block? kind ((block kind name inside).map String.toList) =
      some (name, inside.map String.toList) := by
  rw [block, List.map_append, List.map_cons, List.cons_append, block?, List.map_cons, List.map_nil]
  have hlast : (inside.map String.toList ++ ["\x7d".toList]).getLast? = some ['\x7d'] :=
    List.getLast?_concat
  rw [if_pos hlast, Text.between?_append, List.dropLast_concat]
  rfl

theorem block?_namespace_class :
    block? "namespace" ((block "export class" name inside).map String.toList) = none := by
  have hb : Text.between? "namespace " " \x7b" ("export class" ++ " " ++ name ++ " \x7b").toList =
      none := by
    simp [Text.between?, Text.dropPrior?]
  rw [block, List.map_append, List.map_cons, List.cons_append, block?]
  change (if _ then Option.map _ (Text.between? "namespace " _ _) else _) = _
  rw [hb]
  exact ite_self none

theorem notMem_block (hk : '\n' ∉ kind.toList) (hn : '\n' ∉ name.toList)
    (hi : ∀ l ∈ inside, '\n' ∉ l.toList) :
    ∀ l ∈ block kind name inside, '\n' ∉ l.toList := by
  intro l hl
  rw [block, List.mem_append, List.mem_cons, List.mem_singleton] at hl
  rcases hl with (rfl | hl) | rfl
  · simp [hk, hn]
  · exact hi l hl
  · decide

theorem notMem_lines (h : d.Legible) : ∀ l ∈ d.lines, '\n' ∉ l.toList := by
  have hm : ∀ l ∈ d.members.map Member.line, '\n' ∉ l.toList := by
    intro l hl
    obtain ⟨m, hm, rfl⟩ := List.mem_map.mp hl
    exact Member.notMem_line (h.members m hm)
  have hinner : ∀ l ∈ block "export class" d.name (d.members.map Member.line),
      '\n' ∉ l.toList :=
    notMem_block (by decide) h.name hm
  rw [lines]
  cases hn : d.namespaceName with
  | none => exact hinner
  | some name => exact notMem_block (by decide) (h.namespaceName name hn) hinner

theorem lines_ne_nil (d : Declaration) : d.lines ≠ [] := by
  rw [lines]
  cases d.namespaceName <;> exact List.cons_ne_nil _ _

theorem mapM_ofLine? (h : ∀ m ∈ members, m.Legible) :
    ((members.map Member.line).map String.toList).mapM Member.ofLine? = some members := by
  induction members with
  | nil => rfl
  | cons m members ih =>
    rw [List.map_cons, List.map_cons, List.mapM_cons, Member.ofLine?_line (h m List.mem_cons_self),
      ih fun m' hm => h m' (List.mem_cons_of_mem _ hm)]
    rfl

theorem ofText?_text (h : d.Legible) : ofText? d.text = some d := by
  rw [ofText?, text, Text.lines?_intercalate d.lines_ne_nil (notMem_lines h), lines]
  obtain ⟨namespaceName, name, members⟩ := d
  cases namespaceName with
  | none =>
    simp only [Option.bind_eq_bind, Option.bind_some, block?_namespace_class, block?_block,
      mapM_ofLine? h.members]
    rfl
  | some n =>
    simp only [Option.bind_eq_bind, Option.bind_some, block?_block, mapM_ofLine? h.members]
    rfl

theorem text_eq_text_iff {d e : Declaration} (hd : d.Legible) (he : e.Legible) :
    d.text = e.text ↔ d = e := by
  refine ⟨fun ht => ?_, congrArg text⟩
  have hr := ofText?_text hd
  rw [ht, ofText?_text he] at hr
  exact (Option.some.inj hr).symm

end Declaration

/-! What classes and settings have to leave out so that their texts can be read. -/

/-- No text of the field goes over the end of a line, and its name has no colon. -/
structure Field.Unbroken (f : Field) : Prop where
  name : ∀ c ∈ f.name.toList, c ≠ '\n' ∧ c ≠ ':'
  typeName : '\n' ∉ f.typeName.toList
  qualifiedTypeName : ∀ q, f.qualifiedTypeName = some q → '\n' ∉ q.toList

structure Class.Unbroken (c : Class) : Prop where
  name : '\n' ∉ c.name.toList
  package : '\n' ∉ c.package.toList
  fields : ∀ f ∈ c.fields, f.Unbroken

variable {s : EmitSettings} {f : Field} {c d : Class} {q r : String}

theorem Text.nonBlank?_eq_some (h : nonBlank? q = some r) : r = q := by
  rw [nonBlank?] at h
  split at h
  · cases h
  · exact (Option.some.inj h).symm

theorem forall_ne_of_notMem {a b : Char} {cs : List Char} (ha : a ∉ cs) (hb : b ∉ cs) :
    ∀ c ∈ cs, c ≠ a ∧ c ≠ b :=
  fun _ hc => ⟨ne_of_mem_of_not_mem hc ha, ne_of_mem_of_not_mem hc hb⟩

theorem MappedType.targetType_plain (m : MappedType) :
    ∀ c ∈ m.targetType.toList, c ≠ '\n' ∧ c ≠ ';' := by
  rw [targetType]
  refine forall_ne_of_notMem ?_ ?_
  · cases m.category <;> cases m.isArray <;> decide
  · cases m.category <;> cases m.isArray <;> decide

theorem TypeMapping.notMem_note {note : Note} {name : String}
    {qualified : Option String} {isArray : Bool} (hn : '\n' ∉ name.toList)
    (hq : ∀ q, qualified = some q → '\n' ∉ q.toList) :
    '\n' ∉ (note.text name qualified isArray).toList := by
  have hg : '\n' ∉ ((qualified.bind Text.nonBlank?).getD name).toList := by
    cases hb : qualified.bind Text.nonBlank? with
    | none => exact hn
    | some r =>
      obtain ⟨q, rfl, hr⟩ := Option.bind_eq_some_iff.mp hb
      rw [Option.getD_some, Text.nonBlank?_eq_some hr]
      exact hq q rfl
  cases note <;> cases isArray <;> simp [Note.text, hn, hg]

theorem Field.legible_member (h : f.Unbroken) : f.member.Legible := by
  refine ⟨h.name, f.mapped.targetType_plain, ?_⟩
  rw [member, mapped, mapType]
  split
  · exact TypeMapping.notMem_note h.typeName h.qualifiedTypeName
  · exact List.not_mem_nil

theorem EmitSettings.notMem_namespaceOf (hs : ∀ n, s.explicitNamespace = some n →
    '\n' ∉ n.toList)
    (hp : '\n' ∉ c.package.toList) : '\n' ∉ (s.namespaceOf c).toList := by
  rw [namespaceOf]
  cases hb : s.explicitNamespace.bind Text.nonBlank? with
  | none => exact hp
  | some r =>
    obtain ⟨q, hq, hr⟩ := Option.bind_eq_some_iff.mp hb
    rw [Option.getD_some, Text.nonBlank?_eq_some hr]
    exact hs q hq

theorem Class.legible_declaration (hs : ∀ n, s.explicitNamespace = some n → '\n' ∉ n.toList)
    (hc : c.Unbroken) :
    (c.declaration s).Legible := by
  refine ⟨fun n hn => ?_, hc.name, fun m hm => ?_⟩
  · rw [declaration] at hn
    split at hn
    · cases hn
      exact EmitSettings.notMem_namespaceOf hs hc.package
    · cases hn
  · obtain ⟨f, hf, rfl⟩ := List.mem_map.mp hm
    exact Field.legible_member (hc.fields f ((List.mem_filter.mp hf).1))

theorem Class.render_eq_text (c : Class) (s : EmitSettings) :
    c.render s = (c.declaration s).text := by
  have hm : ((c.fields.filter s.emits).map Field.member).map Member.line =
      (c.fields.filter s.emits).map Field.line :=
    List.map_map
  rw [render, Class.lines, Declaration.text, Declaration.lines, declaration, hm]
  cases s.wrapInNamespace <;> rfl

theorem Class.declaration_eq_iff : c.declaration s = d.declaration s ↔
    c.name = d.name ∧ (s.wrapInNamespace = true → s.namespaceOf c = s.namespaceOf d) ∧
      (c.fields.filter s.emits).map Field.member = (d.fields.filter s.emits).map Field.member := by
  rw [declaration, declaration, Declaration.mk.injEq]
  cases s.wrapInNamespace <;> simp [and_left_comm]

/-- From its text a class is read as it was written: its name, its namespace if there is one, and
the name, the type and the comment of each emitted field in order. So two classes have the same text
just if they agree in these. -/
theorem Class.ofText?_render (s : EmitSettings) (c d : Class)
    (hs : ∀ n, s.explicitNamespace = some n → '\n' ∉ n.toList) (hc : c.Unbroken)
    (hd : d.Unbroken) :
    Declaration.ofText? (c.render s) = some (c.declaration s) ∧
    (c.render s = d.render s ↔
      c.name = d.name ∧ (s.wrapInNamespace = true → s.namespaceOf c = s.namespaceOf d) ∧
        (c.fields.filter s.emits).map Field.member =
          (d.fields.filter s.emits).map Field.member) := by
  have hlc := Class.legible_declaration hs hc
  have hld := Class.legible_declaration hs hd
  rw [render_eq_text, render_eq_text]
  exact ⟨Declaration.ofText?_text hlc,
    (Declaration.text_eq_text_iff hlc hld).trans declaration_eq_iff⟩

/-- What ends a name, a type or a block stands in a comment too, and a field that is not public is
left out. -/
theorem Class.ofText?_render_of_marks :
    let due : Field :=
      ⟨"due", "Date: x", some "shop.Date; \x7d // x", true, .single .publicAccess⟩
    let hidden : Field := ⟨"hidden", "int", none, false, .single .privateAccess⟩
    let s : EmitSettings :=
      { wrapInNamespace := true, includeNonPublic := false, explicitNamespace := some " " }
    Declaration.ofText? ((⟨"Order \x7d", "shop", [hidden, due]⟩ : Class).render s) =
      some ⟨some "shop", "Order \x7d",
        [⟨"due", "Array<String>", "shop.Date; \x7d // x[]"⟩]⟩ ∧
    (⟨"Order \x7d", "shop", [hidden, due]⟩ : Class).render s =
      (⟨"Order \x7d", "shop", [due]⟩ : Class).render s := by
  intro due hidden s
  have hdue : due.Unbroken :=
    ⟨forall_ne_of_notMem (by decide) (by decide), by decide, by rintro _ ⟨⟩; decide⟩
  have hhidden : hidden.Unbroken :=
    ⟨forall_ne_of_notMem (by decide) (by decide), by decide, nofun⟩
  have hs : ∀ n, s.explicitNamespace = some n → '\n' ∉ n.toList := by rintro _ ⟨⟩; decide
  obtain ⟨hr, he⟩ := Class.ofText?_render s ⟨"Order \x7d", "shop", [hidden, due]⟩
    ⟨"Order \x7d", "shop", [due]⟩ hs
    ⟨by decide, by decide, by simpa using ⟨hhidden, hdue⟩⟩
      ⟨by decide, by decide, by simpa using hdue⟩
  have hf : [hidden, due].filter s.emits = [due].filter s.emits := by decide
  refine ⟨hr.trans ?_, he.mpr ⟨rfl, fun _ => rfl, congrArg _ hf⟩⟩
  decide +kernel

end ClassExport
