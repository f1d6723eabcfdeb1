import ClassExport.Proofs.References
import Mathlib.Data.List.Basic

/-!
Putting values for references one after another, and when each of them comes to stand in the place
of its own reference.
-/
namespace ClassExport

variable {cs : List Char} {r : Reference} {env : Environment} {ps before after : List Piece}
  {done refs : List Reference} {text : String}

/-! Replacing one text by another. -/

namespace Text

variable {old new xs : List Char} {c : Char}

theorem replaceFrom_length (xs cs : List Char) :
    replaceFrom old new xs.length (xs ++ cs) = replaceFrom old new 0 cs := by
  induction xs with
  | nil => rfl
  | cons x xs ih => exact ih

theorem replaceChars_append (hne : old ≠ []) (cs : List Char) :
    replaceChars old new (old ++ cs) = new ++ replaceChars old new cs := by
  cases old with
  | nil => exact (hne rfl).elim
  | cons c old =>
    have hp : (c :: old).isPrefixOf (c :: (old ++ cs)) = true :=
      List.isPrefixOf_iff_prefix.mpr ⟨cs, rfl⟩
    have hk : (c :: old).length - 1 = old.length := rfl
    rw [replaceChars, List.cons_append, replaceFrom, hp, hk, replaceFrom_length]
    rfl

/-- Nothing is replaced before the first place where the old text begins. -/
theorem replaceChars_skip (h : ∀ a b, xs = a ++ b → b ≠ [] → ¬ old <+: b ++ cs) :
    replaceChars old new (xs ++ cs) = xs ++ replaceChars old new cs := by
  induction xs with
  | nil => rfl
  | cons x xs ih =>
    have hx : old.isPrefixOf (x :: (xs ++ cs)) = false := by
      rw [Bool.eq_false_iff]
      intro hp
      exact h [] (x :: xs) rfl (List.cons_ne_nil x xs) (List.isPrefixOf_iff_prefix.mp hp)
    have hrest := ih fun a b he hne => h (x :: a) b (congrArg (x :: ·) he) hne
    rw [List.cons_append, replaceChars, replaceFrom, hx, Bool.and_false]
    exact congrArg (x :: ·) hrest

end Text

/-! The text that is made of the pieces. -/

/-- The value of the variable when it is set, else the default. -/
def Reference.shown (env : Environment) (r : Reference) : List Char :=
  (((env.get? r.name).or r.default).getD "").toList

/-- What a piece has come to when the listed references are replaced. -/
def Piece.shown (env : Environment) (done : List Reference) : Piece → List Char
  | .plain c => [c]
  | .reference r => if r ∈ done then r.shown env else r.written

def textMade (env : Environment) (done : List Reference) (ps : List Piece) : List Char :=
  ps.flatMap (Piece.shown env done)

theorem textMade_cons {p : Piece} :
    textMade env done (p :: ps) = p.shown env done ++ textMade env done ps :=
  List.flatMap_cons

theorem Cut.textMade_nil (h : Cut cs ps) (env : Environment) : textMade env [] ps = cs := by
  induction h with
  | nil => rfl
  | plain hn h ih => exact congrArg (_ :: ·) ih
  | reference hr h ih => exact congrArg (_ ++ ·) ih

theorem textMade_append :
    textMade env done (before ++ after) = textMade env done before ++ textMade env done after :=
  List.flatMap_append

theorem textMade_plain (front : List Char) : textMade env done (front.map .plain) = front := by
  induction front with
  | nil => rfl
  | cons c front ih => exact congrArg (c :: ·) ih

/-- What stands in a text begins in one of its pieces. -/
theorem exists_piece_at {w a b : List Char} (hw : w ≠ [])
    (h : textMade env done ps = a ++ (w ++ b)) :
    ∃ before p after c d, ps = before ++ p :: after ∧ a = textMade env done before ++ c ∧
      p.shown env done = c ++ d ∧ d ≠ [] ∧ w ++ b = d ++ textMade env done after := by
  induction ps generalizing a with
  | nil =>
    obtain ⟨-, hnil⟩ := List.append_eq_nil_iff.mp h.symm
    exact (hw (List.append_eq_nil_iff.mp hnil).1).elim
  | cons p ps ih =>
    rw [textMade_cons] at h
    -- the piece ends before the place, or the place is in the piece
    have hcases : (∃ a', a = p.shown env done ++ a' ∧ textMade env done ps = a' ++ (w ++ b)) ∨
        ∃ d, p.shown env done = a ++ d ∧ d ≠ [] ∧ w ++ b = d ++ textMade env done ps := by
      rcases List.append_eq_append_iff.mp h with ⟨a', ha, ht⟩ | ⟨d, hp, ht⟩
      · exact Or.inl ⟨a', ha, ht⟩
      · by_cases hd : d = []
        · subst hd
          exact Or.inl ⟨[], by rw [hp, List.append_nil, List.append_nil], ht.symm⟩
        · exact Or.inr ⟨d, hp, hd, ht⟩
    rcases hcases with ⟨a', rfl, ht⟩ | ⟨d, hp, hd, ht⟩
    · obtain ⟨before, q, after, c, d, rfl, rfl, hq⟩ := ih ht
      exact ⟨p :: before, q, after, c, d, rfl, by rw [textMade_cons, List.append_assoc], hq⟩
    · exact ⟨[], p, ps, a, d, rfl, rfl, hp, hd, ht⟩

/-- Wherever the text holds the reference as it is written, the reference stands there and is still
to be replaced. -/
def StandsAlone (env : Environment) (done : List Reference) (ps : List Piece)
    (r : Reference) : Prop :=
  ∀ a b, textMade env done ps = a ++ (r.written ++ b) →
    r ∉ done ∧ ∃ before after, ps = before ++ .reference r :: after ∧
      textMade env done before = a

theorem StandsAlone.tail {p : Piece} (hr : r.Legible) (h : StandsAlone env done (p :: ps) r) :
    StandsAlone env done ps r := by
  intro a b he
  have hcons : textMade env done (p :: ps) = (p.shown env done ++ a) ++ (r.written ++ b) := by
    rw [textMade_cons, he, List.append_assoc]
  obtain ⟨hn, before, after, hp, hb⟩ := h _ _ hcons
  refine ⟨hn, ?_⟩
  cases before with
  | nil =>
    obtain ⟨rfl, rfl⟩ := List.cons.inj hp
    have hnil := (List.append_eq_nil_iff.mp hb.symm).1
    rw [Piece.shown, if_neg hn] at hnil
    exact (hr.written_ne_nil hnil).elim
  | cons q before =>
    obtain ⟨rfl, rfl⟩ := List.cons.inj hp
    exact ⟨before, after, rfl, List.append_cancel_left hb⟩

theorem Piece.shown_concat {p : Piece} (hp : ¬ (p = .reference r ∧ r ∉ done)) :
    p.shown env (done ++ [r]) = p.shown env done := by
  cases p with
  | plain c => rfl
  | reference r' =>
    by_cases he : r' = r
    · subst he
      have hm : r' ∈ done := by simpa using hp
      simp [Piece.shown, hm]
    · simp [Piece.shown, he]

/-- A reference that stands alone is replaced where it stands and nowhere else. -/
theorem StandsAlone.replace (hr : r.Legible) (h : StandsAlone env done ps r) :
    Text.replaceChars r.written (r.shown env) (textMade env done ps) =
      textMade env (done ++ [r]) ps := by
  induction ps with
  | nil => rfl
  | cons p ps ih =>
    have hrest := ih (h.tail hr)
    rw [textMade_cons, textMade_cons, ← hrest]
    by_cases hp : p = .reference r ∧ r ∉ done
    · obtain ⟨rfl, hn⟩ := hp
      simp only [Piece.shown, hn, if_false, List.mem_append, List.mem_singleton, or_true, if_true]
      exact Text.replaceChars_append hr.written_ne_nil _
    · rw [Piece.shown_concat hp]
      refine Text.replaceChars_skip fun a b he hne hpre => hp ?_
      obtain ⟨t, ht⟩ := hpre
      have hcons : textMade env done (p :: ps) = a ++ (r.written ++ t) := by
        rw [textMade_cons, he, List.append_assoc, ← ht]
      obtain ⟨hn, before, after, hcut, hb⟩ := h _ _ hcons
      cases before with
      | nil => exact ⟨List.head_eq_of_cons_eq hcut, hn⟩
      | cons q before =>
        obtain rfl := List.head_eq_of_cons_eq hcut
        rw [textMade_cons, he] at hb
        have hlen := congrArg List.length hb
        simp only [List.length_append] at hlen
        exact (hne (List.eq_nil_of_length_eq_zero (by omega))).elim

theorem foldl_replace (hl : ∀ r ∈ refs, r.Legible)
    (hs : ∀ mid r rest, refs = mid ++ r :: rest → StandsAlone env (done ++ mid) ps r) :
    refs.foldl (fun result r => Text.replaceChars r.written (r.shown env) result)
      (textMade env done ps) =
      textMade env (done ++ refs) ps := by
  induction refs generalizing done with
  | nil => rw [List.foldl_nil, List.append_nil]
  | cons r refs ih =>
    rw [List.forall_mem_cons] at hl
    have hr : StandsAlone env done ps r := by simpa using hs [] r refs rfl
    rw [List.foldl_cons, hr.replace hl.1, List.append_cons done r refs]
    refine ih hl.2 fun mid r' rest he => ?_
    rw [List.append_assoc]
    exact hs (r :: mid) r' rest (congrArg (r :: ·) he)

namespace Environment

/-- Every reference of the text has a value or a default. -/
def Covers (env : Environment) (text : String) : Prop :=
  ∀ r ∈ Reference.all text, ((env.get? r.name).or r.default).isSome

/-- The text with each reference replaced in its place by its own value. -/
def inPlace (env : Environment) (text : String) : String :=
  String.ofList ((Piece.all text).flatMap fun
    | .plain c => [c]
    | .reference r => r.shown env)

/-- Whenever a reference has its turn, it stands wherever the text made so far holds it as it is
written. -/
def Clear (env : Environment) (text : String) : Prop :=
  ∀ done r rest, Reference.all text = done ++ r :: rest →
    StandsAlone env done (Piece.all text) r

theorem foldlM_replace (hc : ∀ r ∈ refs, ((env.get? r.name).or r.default).isSome)
    (result : List Char) :
    refs.foldlM (m := Except Failure) (fun result r => do
        return Text.replaceChars r.written (← r.value env).toList result) result =
      .ok (refs.foldl (fun result r =>
        Text.replaceChars r.written (r.shown env) result) result) := by
  induction refs generalizing result with
  | nil => rfl
  | cons r refs ih =>
    rw [List.forall_mem_cons] at hc
    obtain ⟨value, hv⟩ := Option.isSome_iff_exists.mp hc.1
    have hs : r.shown env = value.toList := by rw [Reference.shown, hv]; rfl
    have hr : r.value env = .ok value := by rw [Reference.value, hv]
    rw [List.foldlM_cons, hr, List.foldl_cons, hs]
    exact ih hc.2 _

theorem substitute_of_covers (h : env.Covers text) :
    env.substitute text = .ok (String.ofList ((Reference.all text).foldl
      (fun result r => Text.replaceChars r.written (r.shown env) result) text.toList)) := by
  rw [substitute, foldlM_replace h]
  rfl

theorem textMade_all (env : Environment) (text : String) :
    String.ofList (textMade env (Reference.all text) (Piece.all text)) = env.inPlace text := by
  rw [inPlace, textMade]
  refine congrArg String.ofList (List.flatMap_congr fun p hp => ?_)
  cases p with
  | plain c => rfl
  | reference r =>
    simp only [Piece.shown, mem_all_iff.mpr hp, if_true]

theorem substitute_of_clear (hc : env.Covers text) (h : env.Clear text) :
    env.substitute text = .ok (env.inPlace text) := by
  have hl : ∀ r ∈ Reference.all text, r.Legible := fun r hm => Reference.legible_of_mem_all hm
  have hfold : (Reference.all text).foldl (fun result r =>
    Text.replaceChars r.written (r.shown env) result)
      (textMade env [] (Piece.all text)) = textMade env (Reference.all text) (Piece.all text) :=
        foldl_replace hl h
  rw [(cut_all text).textMade_nil env] at hfold
  rw [substitute_of_covers hc, hfold, textMade_all]

end Environment

/-! When every replacement is clear. -/

theorem Cut.atHead?_eq_none {c : Char} (h : Cut cs ps) (hp : ps = before ++ .plain c :: after) :
    Reference.atHead? (c :: textMade env [] after) = none := by
  induction h generalizing before with
  | nil => simp at hp
  | plain hn h ih =>
    cases before with
    | nil =>
      obtain ⟨he, rfl⟩ := List.cons.inj hp
      cases he
      rwa [h.textMade_nil]
    | cons p before => exact ih (List.cons.inj hp).2
  | reference hr h ih =>
    cases before with
    | nil => cases (List.cons.inj hp).1
    | cons p before => exact ih (List.cons.inj hp).2

theorem eq_nil_of_append_singleton {α : Type} {c d : List α} {x : α} (h : [x] = c ++ d)
    (hd : d ≠ []) : c = [] ∧ d = [x] := by
  cases c with
  | nil => exact ⟨rfl, h.symm⟩
  | cons y c =>
    obtain ⟨-, hnil⟩ := List.cons.inj h
    exact (hd (List.append_eq_nil_iff.mp hnil.symm).2).elim

namespace Environment

theorem clear_of_length_le_one (h : (Reference.all text).length ≤ 1) (env : Environment) :
    env.Clear text := by
  intro done r rest hall
  obtain ⟨rfl, rfl⟩ : done = [] ∧ rest = [] := by
    rw [hall, List.length_append, List.length_cons] at h
    exact ⟨List.eq_nil_of_length_eq_zero (by omega), List.eq_nil_of_length_eq_zero (by omega)⟩
  rw [List.nil_append] at hall
  have hr : r.Legible := Reference.legible_of_mem_all (hall ▸ List.mem_cons_self)
  have honly : ∀ r', .reference r' ∈ Piece.all text → r' = r := by
    intro r' hm
    rw [← mem_all_iff, hall] at hm
    exact List.mem_singleton.mp hm
  intro a b he
  obtain ⟨before, p, after, c, d, hp, rfl, hs, hd, ho⟩ := exists_piece_at hr.written_ne_nil he
  refine ⟨List.not_mem_nil, ?_⟩
  cases p with
  | plain x =>
    obtain ⟨-, rfl⟩ := eq_nil_of_append_singleton hs hd
    have hn : Reference.atHead? (x :: textMade env [] after) = none :=
      (cut_all text).atHead?_eq_none hp
    have hy := Reference.atHead?_written hr b
    rw [ho, List.singleton_append, hn] at hy
    cases hy
  | reference r' =>
    obtain rfl : r' = r := honly r' (hp ▸ List.mem_append_right before List.mem_cons_self)
    have hs' : r'.written = c ++ d := hs
    have hw := Reference.eq_of_overlap hr hr hs' hd ho
    rw [← hw] at hs'
    have hc : c = [] := List.append_left_eq_self.mp hs'.symm
    exact ⟨before, after, hp, by rw [hc, List.append_nil]⟩

/-- Dollar signs stand in the text only where its references begin, and none is put in. -/
def PutsNoDollar (env : Environment) (text : String) : Prop :=
  .plain '$' ∉ Piece.all text ∧ ∀ r ∈ Reference.all text, '$' ∉ r.written.tail ∧
    '$' ∉ r.shown env

theorem PutsNoDollar.clear (h : env.PutsNoDollar text) : env.Clear text := by
  intro done r rest hall a b he
  have hr : r.Legible :=
    Reference.legible_of_mem_all (hall ▸ List.mem_append_right done List.mem_cons_self)
  obtain ⟨body, hw, -⟩ := hr.closed
  obtain ⟨before, p, after, c, d, hp, rfl, hs, hd, ho⟩ := exists_piece_at hr.written_ne_nil he
  have hm : p ∈ Piece.all text := hp ▸ List.mem_append_right before List.mem_cons_self
  obtain ⟨d, rfl⟩ : ∃ d', d = '$' :: d' := by
    rw [hw] at ho
    cases d with
    | nil => exact (hd rfl).elim
    | cons x d => exact ⟨d, congrArg (· :: d) (List.cons.inj ho).1.symm⟩
  cases p with
  | plain x =>
    obtain ⟨-, hx⟩ := eq_nil_of_append_singleton hs hd
    obtain rfl := List.head_eq_of_cons_eq hx
    exact (h.1 hm).elim
  | reference r' =>
    have hr' : r' ∈ Reference.all text := mem_all_iff.mpr hm
    obtain ⟨htail, hshown⟩ := h.2 r' hr'
    rw [Piece.shown] at hs
    split at hs
    · exact (hshown (hs ▸ List.mem_append_right c List.mem_cons_self)).elim
    · rename_i hn
      cases c with
      | cons x c =>
        exact (htail (by rw [hs]; exact List.mem_append_right c List.mem_cons_self)).elim
      | nil =>
        have hw' := Reference.eq_of_overlap hr (Reference.legible_of_mem_all hr') hs hd ho
        obtain rfl :=
          Reference.eq_of_written_eq hr (Reference.legible_of_mem_all hr') (hw'.trans hs.symm)
        exact ⟨hn, before, after, hp, (List.append_nil _).symm⟩

end Environment

/-! Two references of which the first one puts in the second one. -/

theorem Cut.exists_first (h : Cut cs ps) (hr : ps.filterMap Piece.reference? = r :: refs) :
    ∃ front after, ps = front.map .plain ++ .reference r :: after ∧
      ∃ t, cs = front ++ t ∧ ∀ a b, front = a ++ b → b ≠ [] → ∀ r' : Reference,
        r'.Legible → ¬ r'.written <+: b ++ t := by
  induction h with
  | nil => cases hr
  | @plain c cs ps hn h ih =>
    obtain ⟨front, after, rfl, t, rfl, hf⟩ := ih hr
    refine ⟨c :: front, after, rfl, t, rfl, fun a b he hne r' hl hpre => ?_⟩
    cases a with
    | nil =>
      obtain ⟨rest, hrest⟩ := hpre
      have hy := Reference.atHead?_written hl rest
      rw [List.nil_append] at he
      rw [hrest, ← he] at hy
      exact nomatch hn.symm.trans hy
    | cons x a => exact hf a b (List.cons.inj he).2 hne r' hl hpre
  | @reference r' cs ps hl h ih =>
    obtain ⟨rfl, rfl⟩ := List.cons.inj hr
    exact ⟨[], ps, rfl, _, rfl, fun a b he hne =>
      (hne (List.append_eq_nil_iff.mp he.symm).2).elim⟩

theorem not_prefix_of_letters {b xs : List Char} (hr : r.Legible) (hb : ∀ c ∈ b, c = 'x')
    (hne : b ≠ []) :
    ¬ r.written <+: b ++ xs := by
  obtain ⟨body, hw, -⟩ := hr.closed
  rintro ⟨s, hs⟩
  cases b with
  | nil => exact hne rfl
  | cons c b =>
    rw [hw] at hs
    have hc : '$' = c := (List.cons.inj hs).1
    have hx := hb c List.mem_cons_self
    rw [← hc] at hx
    exact absurd hx (by decide)

/-- A reference ends in a brace, so that it does not end in the mark. -/
theorem prefix_of_append_mark {c : List Char} {n : Nat} (hr : r.Legible)
    (h : r.written <+: c ++ List.replicate n 'x') :
    r.written <+: c := by
  obtain ⟨s, hs⟩ := h
  rcases List.append_eq_append_iff.mp hs with ⟨c', rfl, -⟩ | ⟨m, hw, hm⟩
  · exact List.prefix_append _ _
  · rcases List.eq_nil_or_concat m with rfl | ⟨m', l, rfl⟩
    · rw [List.append_nil] at hw
      exact hw ▸ List.prefix_rfl
    · obtain ⟨body, hbody, -⟩ := hr.closed
      have hx : l = 'x' := by
        apply List.eq_of_mem_replicate (n := n)
        rw [hm]
        simp
      rw [hbody, List.concat_eq_append, ← List.append_assoc, hx] at hw
      obtain ⟨-, hl⟩ := List.append_inj' hw rfl
      exact absurd (List.head_eq_of_cons_eq hl) (by decide)

/-- No reference begins in front of a mark that is as long as it, or in the mark. -/
theorem not_prefix_of_mark {front t xs : List Char} {n : Nat} (hr : r.Legible)
    (hn : r.written.length ≤ n)
    (hf : ∀ a b, front = a ++ b → b ≠ [] → ¬ r.written <+: b ++ t) (a b : List Char)
    (he : front ++ List.replicate n 'x' = a ++ b) (hne : b ≠ []) : ¬ r.written <+: b ++ xs := by
  rcases List.append_eq_append_iff.mp he with ⟨a', -, ha⟩ | ⟨c, hfront, rfl⟩
  · refine not_prefix_of_letters hr (fun c hc => List.eq_of_mem_replicate (n := n) ?_) hne
    rw [ha]
    exact List.mem_append_right a' hc
  by_cases hc : c = []
  · subst hc
    exact not_prefix_of_letters hr (fun c hc => List.eq_of_mem_replicate hc) hne
  · intro hpre
    have hshort : r.written <+: c ++ List.replicate n 'x' := by
      refine List.prefix_of_prefix_length_le hpre (List.prefix_append _ _) ?_
      rw [List.length_append, List.length_replicate]
      omega
    exact hf a c hfront hc ((prefix_of_append_mark hr hshort).trans (List.prefix_append c t))

/-- What stands before the end of the mark is out of reach. -/
theorem exists_foldl_replace {front t : List Char} {n : Nat}
    (hl : ∀ r ∈ refs, r.Legible ∧ r.written.length ≤ n)
    (hf : ∀ a b, front = a ++ b → b ≠ [] → ∀ r : Reference, r.Legible →
        ¬ r.written <+: b ++ t)
    (new : Reference → List Char) (xs : List Char) : ∃ ys,
      refs.foldl (fun result r => Text.replaceChars r.written (new r) result)
        (front ++ List.replicate n 'x' ++ xs) =
        front ++ List.replicate n 'x' ++ ys := by
  induction refs generalizing xs with
  | nil => exact ⟨xs, rfl⟩
  | cons r refs ih =>
    rw [List.forall_mem_cons] at hl
    have hnone : ∀ a b, front = a ++ b → b ≠ [] → ¬ r.written <+: b ++ t :=
      fun a b he hne => hf a b he hne r hl.1.1
    rw [List.foldl_cons, Text.replaceChars_skip (not_prefix_of_mark hl.1.1 hl.1.2 hnone)]
    exact ih hl.2 _

theorem Environment.get?_of_mem {value : String} (hm : r ∈ refs) :
    Environment.get? ⟨refs.map fun r => (r.name, value)⟩ r.name = some value := by
  rw [get?]
  induction refs with
  | nil => cases hm
  | cons r' refs ih =>
    rw [List.map_cons, List.lookup_cons]
    by_cases he : r.name = r'.name
    · rw [beq_iff_eq.mpr he]
    · rw [beq_eq_false_iff_ne.mpr he]
      rcases List.mem_cons.mp hm with rfl | hm
      · exact (he rfl).elim
      · exact ih hm

/-- All references of a text can have one value. -/
theorem Environment.exists_shown (text : String) (value : List Char) :
    ∃ env : Environment, env.Covers text ∧ ∀ r ∈ Reference.all text,
      r.shown env = value := by
  refine ⟨⟨(Reference.all text).map fun r => (r.name, String.ofList value)⟩,
    fun r hm => ?_, fun r hm => ?_⟩
  · rw [get?_of_mem hm]
    rfl
  · rw [Reference.shown, get?_of_mem hm]
    exact String.toList_ofList

theorem length_written_le (hm : r ∈ Reference.all text) :
    r.written.length ≤ text.toList.length := by
  obtain ⟨before, after, hp⟩ := List.append_of_mem (mem_all_iff.mp hm)
  have ht := (cut_all text).textMade_nil ⟨[]⟩
  rw [hp, textMade_append, textMade_cons] at ht
  rw [← ht, List.length_append, List.length_append]
  change r.written.length ≤ _ + (r.written.length + _)
  omega

theorem replicate_append_cons {n : Nat} (ys : List Char) :
    List.replicate n 'x' ++ 'x' :: ys = List.replicate (n + 1) 'x' ++ ys := by
  rw [List.replicate_succ', List.append_assoc]
  rfl

/-- When the first two references become a long mark with the second reference after it, the mark is
put in twice. -/
theorem exists_foldl_twice {front rest : List Char} {r₁ r₂ : Reference} {n : Nat}
    {new : Reference → List Char}
    (hl : ∀ r ∈ r₁ :: r₂ :: refs, r.Legible ∧ r.written.length ≤ n)
    (hf : ∀ a b, front = a ++ b → b ≠ [] → ∀ r : Reference, r.Legible →
        ¬ r.written <+: b ++ (r₁.written ++ rest))
    (h₁ : new r₁ = List.replicate n 'x' ++ r₂.written)
    (h₂ : new r₂ = List.replicate n 'x' ++ r₂.written) :
    ∃ ys, (r₁ :: r₂ :: refs).foldl (fun result r =>
      Text.replaceChars r.written (new r) result)
      (front ++ (r₁.written ++ rest)) = front ++ List.replicate n 'x' ++ 'x' :: ys := by
  simp only [List.forall_mem_cons] at hl
  obtain ⟨hl₁, hl₂, hrefs⟩ := hl
  obtain ⟨m, rfl⟩ : ∃ m, n = m + 1 := by
    have hpos := List.length_pos_iff.mpr hl₂.1.written_ne_nil
    exact ⟨n - 1, by omega⟩
  have hfirst : Text.replaceChars r₁.written (new r₁) (front ++ (r₁.written ++ rest)) =
      front ++ List.replicate (m + 1) 'x' ++
        (r₂.written ++ Text.replaceChars r₁.written (new r₁) rest) := by
    rw [Text.replaceChars_skip fun a b he hne => hf a b he hne r₁ hl₁.1,
      Text.replaceChars_append hl₁.1.written_ne_nil, h₁, List.append_assoc, List.append_assoc]
  have hsecond : ∀ s, ∃ s', Text.replaceChars r₂.written (new r₂)
      (front ++ List.replicate (m + 1) 'x' ++ (r₂.written ++ s)) = front ++
        List.replicate (m + 2) 'x' ++ s' := by
    intro s
    refine ⟨List.replicate m 'x' ++
      (r₂.written ++ Text.replaceChars r₂.written (new r₂) s), ?_⟩
    rw [Text.replaceChars_skip (not_prefix_of_mark hl₂.1 hl₂.2 fun a b he hne =>
      hf a b he hne r₂ hl₂.1), Text.replaceChars_append hl₂.1.written_ne_nil, h₂,
        List.append_assoc front, List.append_assoc front,
      ← replicate_append_cons (n := m + 1), List.append_assoc (List.replicate (m + 1) 'x')]
    rfl
  have hlong : ∀ r ∈ refs, r.Legible ∧ r.written.length ≤ m + 2 := by
    intro r hm
    have hr := hrefs r hm
    exact ⟨hr.1, by omega⟩
  obtain ⟨s, hs⟩ := hsecond (Text.replaceChars r₁.written (new r₁) rest)
  obtain ⟨ys, hy⟩ := exists_foldl_replace hlong hf new s
  refine ⟨ys, ?_⟩
  rw [List.foldl_cons, hfirst, List.foldl_cons, hs, hy, List.append_assoc, List.append_assoc,
    replicate_append_cons]

/-- If all variables hold a long mark and then the second reference as it is written, that one is
replaced where the first one stood. -/
theorem Environment.exists_not_in_place (h : 2 ≤ (Reference.all text).length) :
    ∃ env : Environment, env.Covers text ∧ env.substitute text ≠ .ok (env.inPlace text) := by
  obtain ⟨r₁, r₂, refs, hall⟩ : ∃ r₁ r₂ refs,
      Reference.all text = r₁ :: r₂ :: refs := by
    match hr : Reference.all text, h with
    | r₁ :: r₂ :: refs, _ => exact ⟨r₁, r₂, refs, rfl⟩
  obtain ⟨front, after, hp, t, ht, hf⟩ :=
    (cut_all text).exists_first ((Reference.all_eq text).symm.trans hall)
  have hl : ∀ r ∈ r₁ :: r₂ :: refs, r.Legible ∧
      r.written.length ≤ text.toList.length := by
    intro r hm
    rw [← hall] at hm
    exact ⟨Reference.legible_of_mem_all hm, length_written_le hm⟩
  generalize text.toList.length = n at hl
  obtain ⟨env, hcovers, hshown⟩ := exists_shown text (List.replicate n 'x' ++ r₂.written)
  rw [hall] at hshown
  have htext : t = r₁.written ++ textMade env [] after := by
    have hnil := (cut_all text).textMade_nil env
    rw [hp, textMade_append, textMade_plain, textMade_cons, ht] at hnil
    exact (List.append_cancel_left hnil).symm
  subst htext
  obtain ⟨ys, hy⟩ := exists_foldl_twice hl hf (hshown r₁ (by simp)) (hshown r₂ (by simp))
  refine ⟨env, hcovers, fun he => ?_⟩
  rw [substitute_of_covers hcovers, ← textMade_all, hall, ht, hy, hp, textMade_append,
    textMade_plain, textMade_cons] at he
  have hchars := String.ofList_injective (Except.ok.inj he)
  rw [Piece.shown, if_pos List.mem_cons_self, hshown r₁ List.mem_cons_self, List.append_assoc,
    List.append_assoc] at hchars
  -- after the mark stands a letter of the second mark, or the dollar sign of the reference
  have hletter := List.append_cancel_left (List.append_cancel_left hchars)
  obtain ⟨body, hw, -⟩ := (hl r₂ (by simp)).1.closed
  rw [hw] at hletter
  exact absurd (List.cons.inj hletter).1 (by decide)

/-- When every reference has a value or a default and every replacement is clear, each reference is
replaced in its place by its own value, and no text that was put in is replaced again. That is so in
every environment exactly for the texts with one reference at most; in an environment that puts no
dollar sign into a text without other dollar signs it is so too. -/
theorem Environment.substitute_in_place (text : String) :
    (∀ env : Environment, env.Covers text → env.Clear text →
      env.substitute text = .ok (env.inPlace text)) ∧
    (∀ env : Environment, env.PutsNoDollar text → env.Clear text) ∧
    ((∀ env : Environment, env.Covers text → env.substitute text = .ok (env.inPlace text)) ↔
      (Reference.all text).length ≤ 1) := by
  refine ⟨fun env hc h => substitute_of_clear hc h, fun env h => h.clear, fun hall => ?_,
    fun h env hc => ?_⟩
  · by_contra hn
    obtain ⟨env, hc, hne⟩ :=
      exists_not_in_place (show 2 ≤ (Reference.all text).length by omega)
    exact hne (hall env hc)
  · exact substitute_of_clear hc (clear_of_length_le_one h env)

/-- A value that is set and a default, side by side. -/
theorem Environment.substitute_in_place_beside_default :
    Covers ⟨[("A", "x")]⟩ "$\x7bA\x7d/$\x7bB:-y\x7d" ∧
      PutsNoDollar ⟨[("A", "x")]⟩ "$\x7bA\x7d/$\x7bB:-y\x7d" ∧
    substitute ⟨[("A", "x")]⟩ "$\x7bA\x7d/$\x7bB:-y\x7d" =
      .ok (inPlace ⟨[("A", "x")]⟩ "$\x7bA\x7d/$\x7bB:-y\x7d") ∧
    inPlace ⟨[("A", "x")]⟩ "$\x7bA\x7d/$\x7bB:-y\x7d" = "x/y" := by
  have hc : Covers ⟨[("A", "x")]⟩ "$\x7bA\x7d/$\x7bB:-y\x7d" := by
    rw [Covers]
    decide
  have hp : PutsNoDollar ⟨[("A", "x")]⟩ "$\x7bA\x7d/$\x7bB:-y\x7d" := by
    rw [PutsNoDollar]
    decide
  obtain ⟨hclear, hdollar, -⟩ := Environment.substitute_in_place "$\x7bA\x7d/$\x7bB:-y\x7d"
  exact ⟨hc, hp, hclear _ hc (hdollar _ hp), by decide⟩

/-- The value of the first reference is written as the second one, and is replaced with it. -/
theorem Environment.substitutes_in_value :
    Covers ⟨[("A", "$\x7bB\x7d"), ("B", "x")]⟩ "$\x7bA\x7d$\x7bB\x7d" ∧
    substitute ⟨[("A", "$\x7bB\x7d"), ("B", "x")]⟩ "$\x7bA\x7d$\x7bB\x7d" = .ok "xx" ∧
    inPlace ⟨[("A", "$\x7bB\x7d"), ("B", "x")]⟩ "$\x7bA\x7d$\x7bB\x7d" = "$\x7bB\x7dx" := by
  refine ⟨?_, by decide, by decide⟩
  rw [Covers]
  decide

end ClassExport
