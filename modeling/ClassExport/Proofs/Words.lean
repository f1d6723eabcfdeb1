import ClassExport.Proofs.Declarations
import ClassExport.Proofs.Separators
import ClassExport.Source.Grammar
import ClassExport.Text.Alphanumeric

/-!
All names that are kept of source text are words: of structs and modules, of fields and their types,
of imports.
-/
namespace ClassExport.Source

open Reader

variable {α β : Type} {P : α → Prop} {Q : β → Prop} {call : Calls}

/-- What a reader gives has a property, wherever it reads. -/
def Gives (P : α → Prop) (r : Reader α) : Prop := ∀ ts a rest, r ts = some (a, rest) → P a

/-- The names in a type are words. -/
inductive TypeSyntax.Worded : TypeSyntax → Prop where
  | named {qualifiers : List String} {name : String}
      (h : ∀ s ∈ qualifiers ++ [name], isWord s.toList) :
      Worded (.named qualifiers name)
  | applied {qualifiers : List String} {name : String} {argument : TypeSyntax}
      (h : ∀ s ∈ qualifiers ++ [name], isWord s.toList) (ha : argument.Worded) :
      Worded (.applied qualifiers name argument)
  | reference {target : TypeSyntax} (h : target.Worded) : Worded (.reference target)
  | paren {inner : TypeSyntax} (h : inner.Worded) : Worded (.paren inner)
  | array {element : TypeSyntax} (h : element.Worded) : Worded (.array element)
  | slice {element : TypeSyntax} (h : element.Worded) : Worded (.slice element)
  | other : Worded .other

structure FieldSyntax.Worded (f : FieldSyntax) : Prop where
  name : isWord f.name.toList
  type : f.type.Worded

/-- The names in a tree of imports are words. -/
inductive UseTree.Worded : UseTree → Prop where
  | path {name : String} {tree : UseTree} (h : isWord name.toList) (ht : tree.Worded) :
      Worded (.path name tree)
  | name {name : String} (h : isWord name.toList) : Worded (.name name)
  | rename {name newName : String} (h : isWord name.toList) (hn : isWord newName.toList) :
      Worded (.rename name newName)
  | glob : Worded .glob
  | group {trees : List UseTree} (h : ∀ tree ∈ trees, tree.Worded) : Worded (.group trees)

/-- The names in an item are words, also those in the modules inside it. -/
inductive Item.Worded : Item → Prop where
  | struct {name : String} {body : StructBody} (h : isWord name.toList)
      (hf : ∀ fields, body = .named fields → ∀ f ∈ fields, f.Worded) :
        Worded (.struct name body)
  | module {name : String} {content : Option (List Item)} (h : isWord name.toList)
      (hs : ∀ items, content = some items → ∀ item ∈ items, item.Worded) :
        Worded (.module name content)
  | use {tree : UseTree} (h : tree.Worded) : Worded (.use tree)
  | other : Worded .other

namespace Gives

theorem pure {a : α} (h : P a) : Gives P (Pure.pure a) := by
  intro ts b rest hb
  cases hb
  exact h

theorem refuse : Gives P Reader.refuse := by
  intro ts a rest h
  cases h

theorem bind {x : Reader β} {f : β → Reader α} (hx : Gives Q x)
    (hf : ∀ b, Q b → Gives P (f b)) :
    Gives P (x >>= f) := by
  intro ts a rest h
  change (x ts).bind (fun given => f given.1 given.2) = some (a, rest) at h
  obtain ⟨⟨b, more⟩, hb, h⟩ := Option.bind_eq_some_iff.mp h
  exact hf b (hx ts b more hb) more a rest h

/-- What comes first need not matter. -/
theorem after {x : Reader β} {f : β → Reader α} (hf : ∀ b, Gives P (f b)) :
    Gives P (x >>= f) :=
  bind (Q := fun _ => True) (fun _ _ _ _ => trivial) fun b _ => hf b

theorem map {x : Reader β} {f : β → α} (hx : Gives Q x) (hf : ∀ b, Q b → P (f b)) :
    Gives P (f <$> x) := by
  intro ts a rest h
  change (x ts).bind (fun given => some (f given.1, given.2)) = some (a, rest) at h
  obtain ⟨⟨b, more⟩, hb, h⟩ := Option.bind_eq_some_iff.mp h
  cases h
  exact hf b (hx ts b more hb)

theorem ite {c : Prop} [Decidable c] {x y : Reader α} (hx : Gives P x) (hy : Gives P y) :
    Gives P (if c then x else y) := by
  split
  · exact hx
  · exact hy

theorem loop {σ : Type} {I : σ → Prop} {step : σ → Reader (σ ⊕ α)}
    {start : σ} (hs : I start)
    (h : ∀ s, I s →
        Gives (fun r => (∀ s', r = .inl s' → I s') ∧ ∀ a, r = .inr a → P a) (step s)) :
    Gives P (Reader.loop step start) := by
  have hwithin : ∀ fuel s, I s → Gives P (loopWithin step fuel s) := by
    intro fuel
    induction fuel with
    | zero =>
      intro s _
      exact refuse
    | succ fuel ih =>
      intro s hs
      refine bind (h s hs) fun r hr => ?_
      cases r with
      | inl s' => exact ih s' (hr.1 s' rfl)
      | inr a => exact pure (hr.2 a rfl)
  intro ts
  exact hwithin (ts.length + 1) start hs ts

/-- What a step that collects results goes on or ends with. -/
def Collected (P : α → Prop) (s : List α ⊕ List α) : Prop :=
  (∀ acc, s = .inl acc → ∀ x ∈ acc, P x) ∧ ∀ l, s = .inr l → ∀ x ∈ l, P x

theorem goOn {acc : List α} (h : ∀ x ∈ acc, P x) :
    Gives (Collected P) (Pure.pure (.inl acc) : Reader (List α ⊕ List α)) := by
  refine pure ⟨?_, nofun⟩
  rintro _ ⟨⟩
  exact h

theorem finish {acc : List α} (h : ∀ x ∈ acc, P x) :
    Gives (Collected P) (Pure.pure (.inr acc.reverse) : Reader (List α ⊕ List α)) := by
  refine pure ⟨nofun, ?_⟩
  rintro _ ⟨⟩ x hx
  exact h x (List.mem_reverse.mp hx)

theorem collect {step : List α → Reader (List α ⊕ List α)}
    (h : ∀ acc, (∀ x ∈ acc, P x) → Gives (Collected P) (step acc)) :
    Gives (fun l => ∀ x ∈ l, P x) (Reader.loop step []) :=
  loop (I := fun acc => ∀ x ∈ acc, P x) (List.forall_mem_nil P) h

theorem many {r : Reader α} (h : Gives P r) (a : Look) :
    Gives (fun l => ∀ x ∈ l, P x) (Reader.many a r) := by
  refine collect fun acc hacc => after fun _ => ite (bind h fun x hx => ?_) (finish hacc)
  exact goOn (List.forall_mem_cons.mpr ⟨hx, hacc⟩)

theorem separatedUntil {r : Reader α} (h : Gives P r) (stop : Look) (separator : String) :
    Gives (fun l => ∀ x ∈ l, P x) (Reader.separatedUntil stop separator r) := by
  refine collect fun acc hacc => after fun _ => ite (finish hacc) (bind h fun x hx => ?_)
  have hall := List.forall_mem_cons.mpr ⟨hx, hacc⟩
  exact after fun _ => ite (finish hall) (after fun _ => goOn hall)

theorem separated {r : Reader α} (h : Gives P r) (separator : String) :
    Gives (fun l => ∀ x ∈ l, P x) (Reader.separated separator r) :=
  separatedUntil h Look.atEnd separator

theorem group {r : Reader α} (h : Gives P r) (d : Delimiter) : Gives P (Reader.group d r) :=
  after fun _ => bind h fun _ ha => after fun _ => pure ha

theorem braced {r : Reader α} (h : Gives P r) (call : Calls) :
    Gives (fun l => ∀ x ∈ l, P x) (Source.braced call r) :=
  group (after fun _ => many h _) .brace

theorem take {f : Token → Option α} (h : ∀ t a, f t = some a → P a) :
    Gives P (Reader.take f) := by
  intro ts a rest hr
  cases ts with
  | nil => cases hr
  | cons t ts =>
    obtain ⟨b, hb, he⟩ := Option.map_eq_some_iff.mp hr
    cases he
    exact h t a hb

theorem anyWord : Gives (fun s : String => isWord s.toList) Reader.anyWord := by
  refine take fun t a h => ?_
  cases t with
  | word w =>
    cases h
    exact w.spelled
  | _ => cases h

theorem ident : Gives (fun s : String => isWord s.toList) Reader.ident := by
  refine take fun t a h => ?_
  cases t with
  | word w =>
    dsimp only at h
    split at h
    · cases h
    · cases h
      exact w.spelled
  | _ => cases h

end Gives

def TypeRead.Worded (r : TypeRead) : Prop := r.type.Worded

def WordedOrNone (o : Option UseTree) : Prop := ∀ tree, o = some tree → tree.Worded

/-- The rules that keep names give words, when they are called. -/
structure GivesWords (call : Calls) : Prop where
  type : ∀ plus, Gives TypeRead.Worded (call (.type plus))
  useTree : ∀ root, Gives WordedOrNone (call (.useTree root))
  fields : Gives (fun fields : List FieldSyntax => ∀ f ∈ fields, f.Worded) (call .fields)
  item : Gives Item.Worded (call .item)

/-! Paths. -/

structure Segment.Worded (s : Segment) : Prop where
  name : isWord s.name.toList
  arguments : ∀ arguments, s.arguments = some arguments →
    ∀ t, some t ∈ arguments → t.Worded

def PathRead.Worded (p : PathRead) : Prop := ∀ s ∈ p.segments, s.Worded

theorem PathRead.Worded.mem_names {p : PathRead} (h : p.Worded) {s : String} (hs : s ∈ p.names) :
    isWord s.toList := by
  obtain ⟨segment, hm, rfl⟩ := List.mem_map.mp hs
  exact (h segment hm).name

theorem PathRead.Worded.lastArguments {p : PathRead} (h : p.Worded) {t : TypeSyntax}
    (ht : some t ∈ p.lastArguments) : t.Worded := by
  rw [PathRead.lastArguments] at ht
  cases ha : p.segments.getLast?.bind Segment.arguments with
  | none =>
    rw [ha] at ht
    cases ht
  | some arguments =>
    rw [ha] at ht
    obtain ⟨segment, hs, hsome⟩ := Option.bind_eq_some_iff.mp ha
    exact (h segment (List.mem_of_getLast? hs)).arguments arguments hsome t ht

theorem PathRead.Worded.typeSyntax {p : PathRead} (h : p.Worded) : p.typeSyntax.Worded := by
  have hnames : ∀ name, p.names.getLast? = some name → ∀ s ∈ p.names.dropLast ++ [name],
      isWord s.toList := by
    intro name hl s hs
    rw [List.dropLast_append_getLast? name hl] at hs
    exact h.mem_names hs
  rw [PathRead.typeSyntax]
  split
  · rename_i name hl _
    exact .named (hnames name hl)
  · rename_i name argument hl ha
    refine .applied (hnames name hl) ?_
    obtain ⟨o, ho, he⟩ := List.exists_of_findSome?_eq_some ha
    exact h.lastArguments (he ▸ ho)
  · exact .other

theorem gives_genericArgument (h : GivesWords call) :
    Gives (fun o => ∀ t, o = some t → t.Worded) (genericArgument call) := by
  have hnone : Gives (fun o : Option TypeSyntax => ∀ t, o = some t → t.Worded) (pure none) :=
    Gives.pure nofun
  refine Gives.after fun _ => Gives.ite (Gives.after fun _ => hnone) ?_
  refine Gives.after fun _ => Gives.ite (Gives.after fun _ => hnone) ?_
  refine Gives.bind (h.type true) fun argument ha => ?_
  have hsome : Gives (fun o : Option TypeSyntax => ∀ t, o = some t →
      t.Worded) (pure (some argument.type)) := by
    refine Gives.pure ?_
    rintro _ ⟨⟩
    exact ha
  refine Gives.ite (Gives.after fun _ =>
    Gives.ite ?_ (Gives.after fun _ => Gives.ite ?_ hsome)) hsome
  · exact Gives.after fun _ => Gives.ite (Gives.after fun _ => hnone) (Gives.after fun _ => hnone)
  · exact Gives.after fun _ => hnone

theorem gives_angleArguments (h : GivesWords call) :
    Gives (fun l => ∀ t, some t ∈ l → t.Worded) (angleArguments call) := by
  refine Gives.after fun _ => Gives.after fun _ => ?_
  refine Gives.bind ((gives_genericArgument h).separatedUntil _ _) fun arguments ha => ?_
  exact Gives.after fun _ => Gives.pure fun t ht => ha _ ht t rfl

theorem gives_segment (h : GivesWords call) (inExpression : Bool) :
    Gives Segment.Worded (segment call inExpression) := by
  refine Gives.after fun _ =>
    Gives.ite (Gives.bind Gives.anyWord fun name hname => Gives.pure ⟨hname, nofun⟩) ?_
  refine Gives.after fun _ => ?_
  extract_lets rest
  have hrest : ∀ name, isWord name.toList → Gives Segment.Worded (rest name) := by
    intro name hname
    refine Gives.after fun _ => Gives.ite ?_ (Gives.pure ⟨hname, nofun⟩)
    refine Gives.bind (gives_angleArguments h) fun arguments ha => Gives.pure ⟨hname, ?_⟩
    rintro _ ⟨⟩
    exact ha
  exact Gives.ite (Gives.bind Gives.anyWord hrest) (Gives.bind Gives.ident hrest)

theorem gives_path (h : GivesWords call) (inExpression : Bool) :
    Gives PathRead.Worded (path call inExpression) := by
  refine Gives.after fun _ => Gives.bind (gives_segment h inExpression) fun first hfirst => ?_
  refine Gives.bind (Gives.many (Gives.after fun _ => gives_segment h inExpression) _)
    fun more hmore => Gives.pure ?_
  exact List.forall_mem_cons.mpr ⟨hfirst, hmore⟩

theorem gives_qualifiedPath (h : GivesWords call) (inExpression : Bool) :
    Gives PathRead.Worded (qualifiedPath call inExpression) := by
  refine Gives.after fun _ => Gives.ite (gives_path h inExpression) ?_
  refine Gives.after fun _ => Gives.after fun _ => Gives.after fun _ => ?_
  extract_lets rest
  have hrest : ∀ trait : List Segment, (∀ s ∈ trait, s.Worded) →
      Gives PathRead.Worded (rest trait) := by
    intro trait htrait
    refine Gives.after fun _ => Gives.bind (Gives.collect (P := Segment.Worded) fun acc hacc => ?_)
      fun more hmore => ?_
    · refine Gives.after fun _ => Gives.bind (gives_segment h inExpression) fun s hs =>
        Gives.after fun _ => ?_
      have hall := List.forall_mem_cons.mpr ⟨hs, hacc⟩
      exact Gives.ite (Gives.goOn hall) (Gives.finish hall)
    · exact Gives.pure (List.forall_mem_append.mpr ⟨htrait, hmore⟩)
  refine Gives.ite ?_ (hrest [] (List.forall_mem_nil _))
  exact Gives.bind (Gives.map (gives_path h false) fun p hp => hp) hrest

/-! Types. Of most kinds of types nothing is kept. -/

theorem gives_unread : Gives TypeRead.Worded (pure unread) := Gives.pure .other

theorem gives_bareFunction (call : Calls) : Gives TypeRead.Worded (bareFunction call) := by
  refine Gives.after fun _ => Gives.after fun _ => Gives.after fun _ => Gives.after fun _ => ?_
  exact Gives.after fun _ => Gives.after fun _ => gives_unread

theorem gives_pathType (h : GivesWords call) (plus bound : Bool) :
    Gives TypeRead.Worded (pathType call plus bound) := by
  refine Gives.bind (gives_qualifiedPath h false) fun p hp => ?_
  have hpath : ∀ form, Gives TypeRead.Worded (pure ⟨p.typeSyntax, form⟩) :=
    fun form => Gives.pure hp.typeSyntax
  have hbounds : ∀ form, Gives TypeRead.Worded (pure ⟨.other, form⟩) :=
    fun form => Gives.pure .other
  refine Gives.ite (hpath _) (Gives.after fun _ => Gives.ite ?_ (Gives.after fun _ => ?_))
  · exact Gives.after fun _ => Gives.after fun _ => gives_unread
  refine Gives.ite (hpath _) (Gives.ite (hbounds _) ?_)
  refine Gives.loop (I := fun _ => True) trivial fun single _ => Gives.after fun _ => ?_
  have hend : ∀ form,
    Gives (fun r : Bool ⊕ TypeRead => (∀ s, r = .inl s → True) ∧
      ∀ a, r = .inr a → a.Worded)
      (pure (.inr ⟨.other, form⟩)) := by
    refine fun form => Gives.pure ⟨fun _ _ => trivial, ?_⟩
    rintro _ ⟨⟩
    exact .other
  refine Gives.ite (hend _) (Gives.after fun _ => Gives.ite (hend _) (Gives.after fun _ => ?_))
  exact Gives.pure ⟨fun _ _ => trivial, nofun⟩

def ParenContent.Worded : ParenContent → Prop
  | .finished read => read.Worded
  | .question => True
  | .inner read => read.Worded

theorem gives_parenContent (h : GivesWords call) :
    Gives ParenContent.Worded (parenContent call) := by
  refine Gives.after fun _ => Gives.ite (Gives.pure .other) (Gives.after fun _ => ?_)
  extract_lets rest
  have hrest : ∀ u, Gives ParenContent.Worded (rest u) := by
    refine fun _ => Gives.after fun _ => Gives.ite (Gives.after fun _ => Gives.pure trivial) ?_
    refine Gives.bind (h.type true) fun first hfirst => Gives.after fun _ =>
      Gives.ite ?_ (Gives.pure hfirst)
    exact Gives.after fun _ => Gives.pure .other
  refine Gives.ite (Gives.after fun _ => Gives.ite ?_ (Gives.after hrest)) (hrest ())
  exact Gives.pure (.paren .other)

theorem gives_parenType (h : GivesWords call) (plus : Bool) :
    Gives TypeRead.Worded (parenType call plus) := by
  have hmore : Gives TypeRead.Worded (moreBounds call) := Gives.after fun _ => Gives.pure .other
  refine Gives.bind (Gives.group (gives_parenContent h) .paren) fun content hc => ?_
  cases content with
  | finished read => exact Gives.pure hc
  | question => exact hmore
  | inner first => exact Gives.after fun _ => Gives.ite hmore (Gives.pure (.paren hc))

theorem gives_bracketType (h : GivesWords call) : Gives TypeRead.Worded (bracketType call) := by
  refine Gives.group (Gives.bind (h.type true) fun element he => Gives.after fun _ =>
    Gives.ite ?_ ?_) .bracket
  · exact Gives.after fun _ => Gives.pure (.array he)
  · exact Gives.pure (.slice he)

theorem gives_readType (h : GivesWords call) (plus : Bool) :
    Gives TypeRead.Worded (readType call plus) := by
  have hobject : ∀ markAllowed captureAllowed,
      Gives TypeRead.Worded (objectType call plus markAllowed captureAllowed) :=
    fun _ _ => Gives.after fun _ => Gives.ite gives_unread Gives.refuse
  refine Gives.after fun binder => ?_
  extract_lets bound pointee rest
  have hrest : ∀ u, Gives TypeRead.Worded (rest u) := by
    refine fun _ => Gives.after fun ts => ?_
    refine Gives.ite (gives_parenType h plus) (Gives.ite (gives_bareFunction call) ?_)
    refine Gives.ite (gives_pathType h plus bound)
      (Gives.ite ?_ (Gives.ite (gives_bracketType h) ?_))
    · exact Gives.after fun _ => Gives.after fun _ => hobject false false
    refine Gives.ite ?_
      (Gives.ite ?_ (Gives.ite ?_ (Gives.ite ?_ (Gives.ite ?_ (Gives.ite ?_ Gives.refuse)))))
    · have hpointee : ∀ u, Gives TypeRead.Worded (pointee u) :=
        fun _ => Gives.after fun _ => gives_unread
      exact Gives.after fun _ => Gives.after fun _ => Gives.ite (Gives.after hpointee) (hpointee ())
    · refine Gives.after fun _ => Gives.after fun _ => Gives.after fun _ => ?_
      exact Gives.bind (h.type false) fun target ht => Gives.pure (.reference ht)
    · exact Gives.after fun _ => gives_unread
    · exact Gives.after fun _ => hobject true true
    · exact Gives.after fun _ => gives_unread
    · exact Gives.after fun _ => Gives.ite (Gives.pure .other) Gives.refuse
  exact Gives.ite (Gives.after fun _ => Gives.ite (Gives.after hrest) (hrest ())) (hrest ())

/-! Items. -/

theorem gives_namedField (h : GivesWords call) : Gives FieldSyntax.Worded (namedField call) := by
  refine Gives.after fun _ => Gives.after fun visible => Gives.after fun unnamed => ?_
  extract_lets nested rest
  have hrest : ∀ name, isWord name.toList → Gives FieldSyntax.Worded (rest name) := by
    intro name hname
    refine Gives.after fun _ => Gives.after fun _ => Gives.ite ?_ ?_
    · exact Gives.after fun _ => Gives.after fun _ => Gives.pure ⟨hname, .other⟩
    · exact Gives.bind (h.type true) fun read hr => Gives.pure ⟨hname, hr⟩
  exact Gives.ite (Gives.bind Gives.anyWord hrest) (Gives.bind Gives.ident hrest)

theorem gives_readFields (h : GivesWords call) :
    Gives (fun fields : List FieldSyntax => ∀ f ∈ fields, f.Worded) (readFields call) :=
  Gives.group (Gives.separated (gives_namedField h) ",") .brace

theorem gives_structItem (h : GivesWords call) : Gives Item.Worded (structItem call) := by
  refine Gives.after fun _ => Gives.bind Gives.ident fun name hname => ?_
  refine Gives.after fun _ => Gives.after fun _ => Gives.after fun _ => Gives.ite ?_ ?_
  · exact Gives.after fun _ => Gives.after fun _ => Gives.after fun _ =>
      Gives.pure (.struct hname nofun)
  · refine Gives.after fun _ => Gives.ite ?_ ?_
    · refine Gives.bind h.fields fun fields hf => Gives.pure (.struct hname ?_)
      rintro _ ⟨⟩
      exact hf
    · exact Gives.after fun _ => Gives.pure (.struct hname nofun)

theorem gives_moduleItem (h : GivesWords call) : Gives Item.Worded (moduleItem call) := by
  refine Gives.after fun _ => Gives.after fun _ => Gives.after fun _ => ?_
  extract_lets rest
  have hrest : ∀ name, isWord name.toList → Gives Item.Worded (rest name) := by
    intro name hname
    refine Gives.after fun _ => Gives.ite (Gives.pure (.module hname nofun)) ?_
    refine Gives.bind (Gives.braced h.item call) fun items hitems => Gives.pure (.module hname ?_)
    rintro _ ⟨⟩
    exact hitems
  exact Gives.ite (Gives.bind Gives.anyWord hrest) (Gives.bind Gives.ident hrest)

theorem gives_readUseTree (h : GivesWords call) (root : Bool) :
    Gives WordedOrNone (readUseTree call root) := by
  have hsome : ∀ tree : UseTree, tree.Worded → Gives WordedOrNone (pure (some tree)) := by
    intro tree ht
    refine Gives.pure ?_
    rintro _ ⟨⟩
    exact ht
  refine Gives.after fun _ =>
    Gives.ite (Gives.bind Gives.anyWord fun name hname => Gives.after fun _ => ?_) ?_
  · extract_lets renamed rest
    have hrenamed : ∀ newName, isWord newName.toList → Gives WordedOrNone (renamed newName) :=
      fun newName hn => hsome _ (.rename hname hn)
    have hrest : ∀ u, Gives WordedOrNone (rest u) := by
      refine fun _ => Gives.after fun _ =>
        Gives.ite (Gives.after fun _ => ?_) (hsome _ (.name hname))
      exact Gives.ite (Gives.bind Gives.anyWord hrenamed) (Gives.bind Gives.ident hrenamed)
    refine Gives.ite (Gives.bind (h.useTree false) fun o ho => ?_) (hrest ())
    cases o with
    | some tree => exact hsome _ (.path hname (ho tree rfl))
    | none => exact Gives.after hrest
  · refine Gives.after fun _ => Gives.ite (hsome _ .glob) ?_
    refine Gives.bind (Gives.group (Gives.separated (P := WordedOrNone) ?_ ",") .brace)
      fun trees ht => Gives.pure ?_
    · extract_lets rest
      have hrest : ∀ fromRoot, Gives WordedOrNone (rest fromRoot) := by
        refine fun fromRoot => Gives.bind (h.useTree _) fun o ho => Gives.pure ?_
        cases fromRoot with
        | true => exact nofun
        | false => exact ho
      exact Gives.ite (Gives.after hrest) (Gives.after hrest)
    · intro tree he
      split at he
      · cases he
        refine .group fun tree hm => ?_
        obtain ⟨o, ho, rfl⟩ := List.mem_filterMap.mp hm
        exact ht _ ho tree rfl
      · cases he

theorem gives_useItem (h : GivesWords call) : Gives Item.Worded (useItem call) := by
  refine Gives.after fun _ => Gives.after fun _ => Gives.bind (h.useTree _) fun o ho => ?_
  refine Gives.after fun _ => Gives.pure ?_
  cases o with
  | some tree => exact .use (ho tree rfl)
  | none => exact .other

theorem gives_restOfItem (h : GivesWords call) : Gives Item.Worded (restOfItem call) := by
  have hother : ∀ x : Reader Unit, Gives Item.Worded (x >>= fun _ => pure .other) :=
    fun _ => Gives.after fun _ => Gives.pure .other
  refine Gives.after fun _ => Gives.after fun ts => ?_
  refine Gives.ite (gives_useItem h)
    (Gives.ite (gives_structItem h) (Gives.ite (gives_moduleItem h) ?_))
  -- of all other items nothing is kept
  refine Gives.ite (hother _) (Gives.ite (hother _) (Gives.ite ?_ ?_))
  · exact Gives.ite (Gives.after fun _ => hother _) (hother _)
  · iterate 9 refine Gives.ite (hother _) ?_
    exact hother _

/-- One rule gives words if the rules that it calls do. -/
theorem GivesWords.readRule (h : GivesWords call) :
    GivesWords fun _ rule => readRule call rule where
  type := gives_readType h
  useTree := gives_readUseTree h
  fields := gives_readFields h
  item := Gives.after fun _ => gives_restOfItem h

theorem givesWords_readWithin (depth : Nat) : GivesWords (readWithin depth) := by
  induction depth with
  | zero => exact ⟨fun _ => Gives.refuse, fun _ => Gives.refuse, Gives.refuse, Gives.refuse⟩
  | succ depth ih => exact ih.readRule

theorem worded_of_items? {text : String} {items : List Item} (h : items? text = some items) :
    ∀ item ∈ items, item.Worded := by
  obtain ⟨ts, -, h⟩ := Option.bind_eq_some_iff.mp h
  rw [readAll] at h
  split at h
  · rename_i read hr
    cases h
    exact Gives.after (fun _ => Gives.many (givesWords_readWithin _).item _) ts _ _ hr
  · cases h

theorem StructAt.words {items scope : List Item} {address : List Nat}
    {modules : List String} {name : String} {body : StructBody}
    (h : StructAt items address modules scope name body) (hw : ∀ item ∈ items, item.Worded) :
    ∀ s ∈ modules ++ [name], isWord s.toList := by
  induction h with
  | here h =>
    intro s hs
    obtain rfl : s = _ := List.mem_singleton.mp hs
    cases hw _ (List.mem_of_getElem? h) with
    | struct h => exact h
  | inside h _ ih =>
    cases hw _ (List.mem_of_getElem? h) with
    | module hname hs =>
      intro s hm
      rcases List.mem_cons.mp hm with rfl | hm
      · exact hname
      · exact ih (hs _ rfl) s hm

end ClassExport.Source

/-! Characters of words. -/

namespace ClassExport.Text

variable {c : Char} {cs : List Char}

def blankRanges : List (Nat × Nat) :=
  [(0x9, 0xd), (0x20, 0x20), (0x85, 0x85), (0xa0, 0xa0), (0x1680, 0x1680),
    (0x2000, 0x200a), (0x2028, 0x2029), (0x202f, 0x202f), (0x205f, 0x205f), (0x3000, 0x3000)]

theorem exists_blankRange (h : isBlank c) :
    ∃ b ∈ blankRanges, b.1 ≤ c.toNat ∧ c.toNat ≤ b.2 := by
  simp only [isBlank, Bool.or_eq_true, Bool.and_eq_true, decide_eq_true_eq, beq_iff_eq] at h
  simp only [blankRanges, List.mem_cons, List.not_mem_nil, or_false,
    exists_eq_or_imp, exists_eq_left]
  omega

/-- White space lies between the ranges of letters, digits and other parts of identifiers. -/
theorem apart_blankRanges :
    [identifierStartRanges, identifierExtraRanges, alphanumericExtraRanges].all fun ranges =>
    ranges.toList.all fun r => blankRanges.all fun b => Nat.blt r.2 b.1 || Nat.blt b.2 r.1 := by
  decide +kernel

theorem not_inRanges_of_isBlank {ranges : Array (Nat × Nat)} (h : isBlank c)
    (hr : ranges ∈ [identifierStartRanges, identifierExtraRanges, alphanumericExtraRanges]) :
    ¬ inRanges ranges c.toNat := by
  obtain ⟨b, hb, hbc⟩ := exists_blankRange h
  have hapart := List.all_eq_true.mp apart_blankRanges ranges hr
  rw [inRanges, ← Array.any_toList, List.any_eq_true]
  rintro ⟨r, hm, hc⟩
  rw [Bool.and_eq_true, decide_eq_true_eq, decide_eq_true_eq] at hc
  have hrb := List.all_eq_true.mp (List.all_eq_true.mp hapart r hm) b hb
  rw [Bool.or_eq_true, Nat.blt_eq, Nat.blt_eq] at hrb
  omega

theorem not_alphanum_of_isBlank (h : isBlank c) (hc : c.toNat < 0x80) :
    ¬ (c.isAlphanum || c == '_') := by
  have hall : ∀ n < 0x21, ((Char.ofNat n).isAlphanum || Char.ofNat n == '_') = false := by decide
  have hn : c.toNat < 0x21 := by
    simp only [isBlank, Bool.or_eq_true, Bool.and_eq_true, decide_eq_true_eq, beq_iff_eq] at h
    omega
  have hc := hall c.toNat hn
  rw [Char.ofNat_toNat] at hc
  rw [hc]
  exact Bool.false_ne_true

theorem not_isBlank_of_isIdentifierPart (h : isIdentifierPart c) : ¬ isBlank c := by
  intro hb
  rw [isIdentifierPart] at h
  split at h
  · rename_i hc
    exact not_alphanum_of_isBlank hb hc h
  · rcases (Bool.or_eq_true _ _).mp h with h | h
    · exact not_inRanges_of_isBlank hb (by simp) h
    · exact not_inRanges_of_isBlank hb (by simp) h

theorem not_isBlank_of_isAlphanumeric (h : isAlphanumeric c) : ¬ isBlank c := by
  intro hb
  rw [isAlphanumeric] at h
  split at h
  · rename_i hc
    refine not_alphanum_of_isBlank hb hc ?_
    rw [h]
    rfl
  · rcases (Bool.or_eq_true _ _).mp h with h | h
    · rw [Bool.and_assoc, Bool.and_eq_true] at h
      exact not_inRanges_of_isBlank hb (by simp) h.1
    · exact not_inRanges_of_isBlank hb (by simp) h

theorem isIdentifierPart_of_isIdentifierStart (h : isIdentifierStart c) : isIdentifierPart c := by
  rw [isIdentifierStart] at h
  rw [isIdentifierPart]
  split
  · rename_i hc
    rw [if_pos hc, Bool.or_eq_true] at h
    rw [Bool.or_eq_true, Char.isAlphanum, Bool.or_eq_true]
    exact h.imp_left Or.inl
  · rename_i hc
    rw [if_neg hc] at h
    rw [h]
    rfl

theorem isIdentifierPart_of_mem (h : isIdentifier cs) (hc : c ∈ cs) : isIdentifierPart c := by
  cases cs with
  | nil => cases hc
  | cons d cs =>
    rw [isIdentifier, Bool.and_eq_true, List.all_eq_true] at h
    rcases List.mem_cons.mp hc with rfl | hc
    · exact isIdentifierPart_of_isIdentifierStart h.1
    · exact h.2 c hc

theorem ne_nil_of_isIdentifier (h : isIdentifier cs) : cs ≠ [] := by
  rintro rfl
  cases h

end ClassExport.Text

namespace ClassExport.Source

open Text

variable {c : Char} {cs : List Char}

/-- A word is an identifier, with the mark of a raw one or without. -/
theorem isIdentifier_or_raw_of_isWord (h : isWord cs) :
    isIdentifier cs ∨ ∃ plain, cs = 'r' :: '#' :: plain ∧ isIdentifier plain := by
  rw [isWord.eq_def] at h
  split at h
  · exact Or.inr ⟨_, rfl, h⟩
  · exact Or.inl h

theorem isIdentifierPart_or_eq_of_mem (h : isWord cs) (hc : c ∈ cs) :
    isIdentifierPart c ∨ c = '#' := by
  rcases isIdentifier_or_raw_of_isWord h with hi | ⟨plain, rfl, hi⟩
  · exact Or.inl (isIdentifierPart_of_mem hi hc)
  · rcases List.mem_cons.mp hc with rfl | hc
    · exact Or.inl (by decide)
    · exact (List.mem_cons.mp hc).symm.imp_left (isIdentifierPart_of_mem hi)

end ClassExport.Source

namespace ClassExport.ClassName

open Text

variable {s : String}

theorem segmentChar_of_isIdentifierPart {c : Char} (h : isIdentifierPart c) :
    c ≠ ':' ∧ ¬ isBlank c := by
  refine ⟨?_, not_isBlank_of_isIdentifierPart h⟩
  rintro rfl
  exact absurd h (by decide)

theorem segment_of_isIdentifier (h : isIdentifier s.toList) : Segment s := by
  intro c hc
  exact segmentChar_of_isIdentifierPart (isIdentifierPart_of_mem h hc)

theorem segment_of_isWord (h : Source.isWord s.toList) : Segment s := by
  intro c hc
  rcases Source.isIdentifierPart_or_eq_of_mem h hc with hp | rfl
  · exact segmentChar_of_isIdentifierPart hp
  · decide

end ClassExport.ClassName
