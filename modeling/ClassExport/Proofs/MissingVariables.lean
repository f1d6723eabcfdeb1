import ClassExport.Proofs.Substitution
import ClassExport.Configuration

/-!
The variable that a configuration is refused for: that of the first reference, setting by setting
and from the left, that has neither a value nor a default. What the values hold has no part in it.
-/
namespace ClassExport

variable {cs xs : List Char} {r : Reference} {refs : List Reference}
  {env env' : Environment} {text : String} {texts : List String} {failure : Failure}
  {c : Configuration}

/-! The references of a text. -/

namespace Reference

/-- The references that are read in a text from the left. A character at which none begins is passed
over. -/
inductive Holds : List Char → List Reference → Prop where
  | nil : Holds [] []
  | pass {x : Char} {cs : List Char} {refs : List Reference}
      (hn : ∀ r : Reference, r.Legible → ¬ r.written <+: x :: cs) (h : Holds cs refs) :
        Holds (x :: cs) refs
  | read {r : Reference} {cs : List Char} {refs : List Reference} (hr : r.Legible)
      (h : Holds cs refs) :
      Holds (r.written ++ cs) (r :: refs)

theorem atHead?_eq_none_iff :
    atHead? cs = none ↔ ∀ r : Reference, r.Legible → ¬ r.written <+: cs := by
  constructor
  · rintro hn r hr ⟨rest, rfl⟩
    rw [atHead?_written hr rest] at hn
    cases hn
  · intro h
    cases hs : atHead? cs with
    | none => rfl
    | some r => exact (h r (of_atHead? hs).1 (of_atHead? hs).2).elim

theorem allFrom_length (xs cs : List Char) : allFrom xs.length (xs ++ cs) = allFrom 0 cs := by
  induction xs with
  | nil => rfl
  | cons x xs ih => exact ih

theorem Holds.eq_allFrom (h : Holds cs refs) : refs = allFrom 0 cs := by
  induction h with
  | nil => rfl
  | @pass x cs refs hn h ih => rw [allFrom, atHead?_eq_none_iff.mpr hn, ih]
  | @read r cs refs hr h ih =>
    have hhead := atHead?_written hr cs
    obtain ⟨body, hw, -⟩ := hr.closed
    have hk : r.written.length - 1 = (body ++ ['\x7d']).length := by rw [hw]; rfl
    have hcons : r.written ++ cs = '$' :: (body ++ ['\x7d'] ++ cs) := by rw [hw]; rfl
    rw [hcons] at hhead ⊢
    rw [allFrom, hhead]
    dsimp only
    rw [hk, allFrom_length, ih]

theorem holds_of_cut {ps : List Piece} (h : Cut cs ps) :
    Holds cs (ps.filterMap Piece.reference?) := by
  induction h with
  | nil => exact .nil
  | plain hn h ih => exact .pass (atHead?_eq_none_iff.mp hn) ih
  | reference hr h ih => exact .read hr ih

theorem holds_iff : Holds text.toList refs ↔ refs = all text := by
  refine ⟨Holds.eq_allFrom, ?_⟩
  rintro rfl
  rw [all_eq]
  exact holds_of_cut (cut_all text)

end Reference

/-! One text. -/

namespace Environment

/-- The reference stands for nothing: its variable is not set, and it has no default. -/
def Lacks (env : Environment) (r : Reference) : Prop := env.get? r.name = none ∧ r.default = none

instance : Decidable (env.Lacks r) := inferInstanceAs (Decidable (_ ∧ _))

theorem not_lacks_iff : ¬ env.Lacks r ↔ ((env.get? r.name).or r.default).isSome := by
  rw [Lacks]
  cases env.get? r.name <;> cases r.default <;> simp

theorem Lacks.value (h : env.Lacks r) : r.value env = .error (.variableNotSet r.name) := by
  rw [Reference.value, h.1, h.2]
  rfl

theorem covers_iff : env.Covers text ↔ ∀ r ∈ Reference.all text, ¬ env.Lacks r :=
  forall₂_congr fun _ _ => not_lacks_iff.symm

/-- The reference is the first one of the list that stands for nothing. -/
def LacksFirst (env : Environment) (refs : List Reference) (r : Reference) : Prop :=
  ∃ before after, refs = before ++ r :: after ∧
    (∀ r' ∈ before, ¬ env.Lacks r') ∧ env.Lacks r

theorem covers_or_lacksFirst (env : Environment) (text : String) :
    env.Covers text ∨ ∃ r, env.LacksFirst (Reference.all text) r := by
  cases hf : (Reference.all text).find? fun r => decide (env.Lacks r) with
  | none => exact Or.inl (covers_iff.mpr fun r hm => by simpa using List.find?_eq_none.mp hf r hm)
  | some r =>
    obtain ⟨hr, before, after, hall, hb⟩ := List.find?_eq_some_iff_append.mp hf
    exact Or.inr ⟨r, before, after, hall, fun r' hm => by
      simpa using hb r' hm, of_decide_eq_true hr⟩

theorem LacksFirst.not_covers (h : env.LacksFirst (Reference.all text) r) : ¬ env.Covers text := by
  obtain ⟨before, after, hall, -, hr⟩ := h
  exact fun hc => covers_iff.mp hc r (hall ▸ List.mem_append_right before List.mem_cons_self) hr

/-- The values that were put in before the first reference that stands for nothing do not matter. -/
theorem LacksFirst.substitute_eq (h : env.LacksFirst (Reference.all text) r) :
    env.substitute text = .error (.variableNotSet r.name) := by
  obtain ⟨before, after, hall, hb, hr⟩ := h
  have hstop : ∀ made, (r :: after).foldlM (m := Except Failure) (fun result r => do
      return Text.replaceChars r.written (← r.value env).toList result) made =
        .error (.variableNotSet r.name) := by
    intro made
    rw [List.foldlM_cons, hr.value]
    rfl
  rw [substitute, hall, List.foldlM_append, foldlM_replace fun r' hm => not_lacks_iff.mp (hb r' hm)]
  exact congrArg (String.ofList <$> ·) (hstop _)

theorem substitute_eq_error_iff : env.substitute text = .error failure ↔
    ∃ r, env.LacksFirst (Reference.all text) r ∧ failure = .variableNotSet r.name := by
  constructor
  · intro h
    rcases covers_or_lacksFirst env text with hc | ⟨r, hr⟩
    · rw [substitute_of_covers hc] at h
      cases h
    · rw [hr.substitute_eq] at h
      exact ⟨r, hr, (Except.error.inj h).symm⟩
  · rintro ⟨r, hr, rfl⟩
    exact hr.substitute_eq

/-! Several texts. -/

/-- The first reference that stands for nothing, text by text and from the left. -/
inductive FirstLacking (env : Environment) : List String → Reference → Prop where
  | here {text : String} {texts : List String} {refs : List Reference} {r : Reference}
      (h : Reference.Holds text.toList refs) (hr : env.LacksFirst refs r) :
      FirstLacking env (text :: texts) r
  | later {text : String} {texts : List String} {refs : List Reference} {r : Reference}
      (h : Reference.Holds text.toList refs) (hn : ∀ r' ∈ refs, ¬ env.Lacks r')
        (hl : FirstLacking env texts r) :
      FirstLacking env (text :: texts) r

theorem firstLacking_cons_iff : env.FirstLacking (text :: texts) r ↔
    env.LacksFirst (Reference.all text) r ∨ env.Covers text ∧ env.FirstLacking texts r := by
  constructor
  · rintro (⟨h, hr⟩ | ⟨h, hn, hl⟩)
    · exact Or.inl (Reference.holds_iff.mp h ▸ hr)
    · exact Or.inr ⟨covers_iff.mpr (Reference.holds_iff.mp h ▸ hn), hl⟩
  · rintro (hr | ⟨hc, hl⟩)
    · exact .here (Reference.holds_iff.mpr rfl) hr
    · exact .later (Reference.holds_iff.mpr rfl) (covers_iff.mp hc) hl

theorem mapM_cons_eq_error_iff : (text :: texts).mapM env.substitute = .error failure ↔
    env.substitute text = .error failure ∨ env.Covers text ∧
      texts.mapM env.substitute = .error failure := by
  rw [List.mapM_cons]
  rcases covers_or_lacksFirst env text with hc | ⟨r, hr⟩
  · rw [substitute_of_covers hc]
    cases texts.mapM env.substitute <;> simp [bind, Except.bind, pure, Except.pure, hc]
  · rw [hr.substitute_eq]
    simp [bind, Except.bind, hr.not_covers]

theorem mapM_substitute_eq_error_iff : texts.mapM env.substitute = .error failure ↔
    ∃ r, env.FirstLacking texts r ∧ failure = .variableNotSet r.name := by
  induction texts with
  | nil =>
    refine iff_of_false nofun ?_
    rintro ⟨r, h, -⟩
    cases h
  | cons text texts ih =>
    simp only [mapM_cons_eq_error_iff, substitute_eq_error_iff, ih, firstLacking_cons_iff,
      or_and_right, exists_or, and_assoc, exists_and_left]

/-- There is a first reference that stands for nothing where there is any. -/
theorem exists_firstLacking_iff : (∃ r, env.FirstLacking texts r) ↔
    ∃ text ∈ texts, ∃ refs, Reference.Holds text.toList refs ∧ ∃ r ∈ refs, env.Lacks r := by
  have hread : ∀ text, (∃ refs, Reference.Holds text.toList refs ∧ ∃ r ∈ refs, env.Lacks r) ↔
      ¬ env.Covers text := by
    intro text
    simp [Reference.holds_iff, covers_iff]
  simp only [hread]
  induction texts with
  | nil =>
    refine iff_of_false ?_ (by simp)
    rintro ⟨r, h⟩
    cases h
  | cons text texts ih =>
    simp only [firstLacking_cons_iff, exists_or, exists_and_left, ih, List.exists_mem_cons_iff]
    rcases covers_or_lacksFirst env text with hc | ⟨r, hr⟩
    · have hnone : ¬ ∃ r, env.LacksFirst (Reference.all text) r :=
        fun ⟨r, hr⟩ => hr.not_covers hc
      simp [hc, hnone]
    · exact iff_of_true (Or.inl ⟨r, hr⟩) (Or.inl hr.not_covers)

/-- Values do not matter where they are set. -/
theorem FirstLacking.congr (he : ∀ name, env'.get? name = none ↔ env.get? name = none) :
    env'.FirstLacking texts r ↔ env.FirstLacking texts r := by
  have hl : env'.Lacks = env.Lacks := funext fun r => propext (and_congr_left fun _ => he r.name)
  have hf : env'.LacksFirst = env.LacksFirst := by
    funext refs r
    rw [LacksFirst, LacksFirst, hl]
  induction texts with
  | nil => exact iff_of_false nofun nofun
  | cons text texts ih =>
    rw [firstLacking_cons_iff, firstLacking_cons_iff, covers_iff, covers_iff, hl, hf]
    exact or_congr_right (and_congr_right fun _ => ih)

end Environment

namespace Configuration

/-- The settings in which references are replaced, in the order in which they are. -/
def substitutable (c : Configuration) : List String :=
  [c.outputFolder, c.filePrefix, c.fileSuffix] ++
    (c.explicitNamespace.toList ++ (c.scanPath.toList ++ c.descriptors.toList))

theorem toList_substituteOption (o : Option String) :
    o.toList.mapM env.substitute = Option.toList <$> substituteOption env o := by
  cases o with
  | none => rfl
  | some text =>
    rw [Option.toList, List.mapM_cons, List.mapM_nil, substituteOption]
    cases env.substitute text <;> rfl

theorem substitutable_substituted (c : Configuration) (env : Environment) :
    substitutable <$> c.substituted env = c.substitutable.mapM env.substitute := by
  simp only [substituted, substitutable, List.mapM_append, List.mapM_cons, List.mapM_nil,
    toList_substituteOption, bind_assoc, pure_bind, bind_map_left, map_bind, map_pure]

theorem substituted_eq_error_iff : c.substituted env = .error failure ↔
    ∃ r, env.FirstLacking c.substitutable r ∧ failure = .variableNotSet r.name := by
  rw [← Environment.mapM_substitute_eq_error_iff, ← substitutable_substituted]
  cases c.substituted env <;> simp

/-- A text that describes a configuration is refused exactly when a reference in one of its six
settings stands for nothing, and the failure names the variable of the first one, whatever the
variables that are set hold. Otherwise the classes, the flags and the folder are as they were read
and given. -/
theorem ofText_reports_first_missing (hd : (Toml.ofText? text).bind ofEntries? = some c)
    (base : Path) (env : Environment) :
    (∀ failure, ofText env text base = .error failure ↔
      ∃ r, env.FirstLacking c.substitutable r ∧ failure = .variableNotSet r.name) ∧
    ((∃ failure, ofText env text base = .error failure) ↔
      ∃ setting ∈ c.substitutable, ∃ refs, Reference.Holds setting.toList refs ∧
        ∃ r ∈ refs, env.Lacks r) ∧
    (∀ env' : Environment, (∀ name, env'.get? name = none ↔ env.get? name = none) →
      ∀ failure, ofText env' text base = .error failure ↔
        ofText env text base = .error failure) ∧
    ∀ c', ofText env text base = .ok c' → c'.classes = c.classes ∧
      c'.overwrite = c.overwrite ∧
      c'.addNamespace = c.addNamespace ∧ c'.includePrivate = c.includePrivate ∧
        c'.baseFolder = base := by
  have hread : ∀ env, ofText env text base = { c with baseFolder := base }.substituted env := by
    intro env
    rw [ofText, hd]
  have herror : ∀ env failure, ofText env text base = .error failure ↔
      ∃ r, Environment.FirstLacking env c.substitutable r ∧
        failure = .variableNotSet r.name := by
    intro env failure
    rw [hread]
    exact substituted_eq_error_iff
  refine ⟨herror env, ?_, ?_, ?_⟩
  · simp only [herror, ← Environment.exists_firstLacking_iff]
    exact ⟨fun ⟨_, r, hr, _⟩ => ⟨r, hr⟩, fun ⟨r, hr⟩ => ⟨_, r, hr, rfl⟩⟩
  · intro env' he failure
    simp only [herror, Environment.FirstLacking.congr he]
  · intro c' hc
    rw [hread] at hc
    rw [eq_of_substituted hc]
    exact ⟨rfl, rfl, rfl, rfl, rfl⟩

/-- A text with two variables that are missing below. -/
def twoMissing : String :=
  "classes = [\"p.A\"]\noutput_folder = \"$\x7bOUT:-out\x7d\"\n" ++
    "prefix = \"$\x7bA\x7d$\x7bB\x7d\"\nsuffix = \"$\x7bC\x7d\""

def twoMissingRead : Configuration where
  classes := ["p.A"]
  outputFolder := "$\x7bOUT:-out\x7d"
  filePrefix := "$\x7bA\x7d$\x7bB\x7d"
  fileSuffix := "$\x7bC\x7d"

/-- The first variable has a default, the value of the second one is written as a later reference,
and the third one is reported. -/
theorem ofText_reports_first_missing_of_two :
    (Toml.ofText? twoMissing).bind ofEntries? = some twoMissingRead ∧
    ofText ⟨[("A", "$\x7bC\x7d")]⟩ twoMissing ⟨"p"⟩ = .error (.variableNotSet "B") := by
  have hd : (Toml.ofText? twoMissing).bind ofEntries? = some twoMissingRead := by decide +kernel
  have hfirst : Environment.FirstLacking ⟨[("A", "$\x7bC\x7d")]⟩ twoMissingRead.substitutable
      ⟨"B", none⟩ := by
    refine Environment.firstLacking_cons_iff.mpr
      (Or.inr ⟨?_, Environment.firstLacking_cons_iff.mpr (Or.inl ?_)⟩)
    · rw [Environment.Covers]
      decide
    · exact ⟨[⟨"A", none⟩], [], by decide, by decide, by decide⟩
  exact ⟨hd, ((ofText_reports_first_missing hd ⟨"p"⟩ ⟨[("A", "$\x7bC\x7d")]⟩).1 _).mpr
    ⟨_, hfirst, rfl⟩⟩

end Configuration

end ClassExport
