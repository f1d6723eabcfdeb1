import ClassExport.Proofs.Aftermath
import ClassExport.Proofs.Nesting

/-!
What the report of a dry run tells of the real run, which sees the files that it has written itself.
-/
namespace ClassExport

open FileTree Disk Generation

variable {w v : Workspace} {p : Path} {name content : String} {dryRun : Bool}
  {resolve : String → Except Failure Class} {settings : EmitSettings} {c : Class}
  {earlier : List (String × Outcome)} {outcome : Outcome}

/-- Some entry stands for a class that came to its write, whether or not that went well. -/
def ReachesWrite (resolve : String → Except Failure Class) (settings : EmitSettings)
    (entries : List (String × Outcome)) : Prop :=
  ∃ name outcome c, (name, outcome) ∈ entries ∧ resolve name = .ok c ∧
    outcome.attempted? = some (settings.outputPath c.name)

/-- What a name comes to in a dry run and in the real run; `earlier` holds the entries of the real
run before it. -/
inductive Foretells (resolve : String → Except Failure Class) (settings : EmitSettings)
    (earlier : List (String × Outcome)) (name : String) : Outcome → Outcome → Prop where
  | failed {failure : Failure} (hr : resolve name = .error failure) :
      Foretells resolve settings earlier name (.failed failure) (.failed failure)
  | skipped {c : Class} (hr : resolve name = .ok c) (ho : settings.overwrite = false) :
      Foretells resolve settings earlier name (.skipped (settings.outputPath c.name))
        (.skipped (settings.outputPath c.name))
  | written {c : Class} (hr : resolve name = .ok c) :
      Foretells resolve settings earlier name
        (.dryRun (settings.outputPath c.name) (c.render settings))
        (.written (settings.outputPath c.name) (c.render settings).utf8ByteSize)
  | lost {c : Class} {fault : DiskFault} (hr : resolve name = .ok c) :
      Foretells resolve settings earlier name
        (.dryRun (settings.outputPath c.name) (c.render settings))
        (.failed (.write (settings.outputPath c.name) fault))
  /-- The file was not there before the run. -/
  | made {c : Class} (hr : resolve name = .ok c) (ho : settings.overwrite = false)
      (he : ReachesWrite resolve settings earlier) :
      Foretells resolve settings earlier name
        (.dryRun (settings.outputPath c.name) (c.render settings))
        (.skipped (settings.outputPath c.name))

namespace Foretells

variable {dry real : Outcome} {failure : Failure}
  (h : Foretells resolve settings earlier name dry real)
include h

theorem resolve_of_failed (hd : dry = .failed failure) : resolve name = .error failure := by
  cases h with
  | failed hr => exact Outcome.failed.inj hd ▸ hr
  | _ => cases hd

theorem failed_iff {asked : String} (hl : failure.IsLookup asked) :
    dry = .failed failure ↔ real = .failed failure := by
  cases h with
  | failed => rfl
  | lost =>
    refine iff_of_false Outcome.noConfusion fun he => ?_
    cases Outcome.failed.inj he
    obtain hl | ⟨_, hl⟩ := hl <;> cases hl
  | _ => exact iff_of_false Outcome.noConfusion Outcome.noConfusion

end Foretells

/-! One class. -/

theorem run_generateClass_dry (ho : settings.overwrite = true ∨
    ¬ w.HasFile (settings.outputPath c.name)) :
    (generateClass (m := Session) settings true name c).run w =
      ((.dryRun (settings.outputPath c.name) (c.render settings),
        [.converting name (settings.outputPath c.name)]), w) := by
  rw [generateClass, Session.run_bind, run_emit_of_open ho]
  rfl

theorem foretells_generateName (hl : Later w v)
    (he : v = w ∨ ReachesWrite resolve settings earlier) (name : String) :
    Foretells resolve settings earlier name
      ((generateName (m := Session) resolve settings true name).run w).1.1
      ((generateName (m := Session) resolve settings false name).run v).1.1 := by
  rw [generateName, generateName]
  cases hr : resolve name with
  | error failure => exact .failed hr
  | ok c =>
    dsimp only
    obtain ⟨ho, hk⟩ | ho := kept_or_open settings w (settings.outputPath c.name)
    · rw [run_generateClass_of_kept ho hk, run_generateClass_of_kept ho (hl.hasFile hk)]
      exact .skipped hr ho
    · rw [run_generateClass_dry ho]
      have hx := exported_generateClass hl.sound settings name c
      generalize (generateClass (m := Session) settings false name c).run v = result at hx ⊢
      obtain ⟨⟨outcome, events⟩, v'⟩ := result
      cases hx with
      | kept ho' hk' =>
        obtain rfl | he := he
        · exact (ho.resolve_left (by simp [ho']) hk').elim
        · exact .made hr ho' he
      | lost => exact .lost hr
      | done => exact .written hr

/-! Whole runs. -/

theorem run_generateName_dry (name : String) (w : Workspace) :
    ((generateName (m := Session) resolve settings true name).run w).2 = w := by
  rw [generateName]
  cases resolve name with
  | error failure => rfl
  | ok c =>
    dsimp only
    obtain ⟨ho, hk⟩ | ho := kept_or_open settings w (settings.outputPath c.name)
    · rw [run_generateClass_of_kept ho hk]
    · rw [run_generateClass_dry ho]

theorem run_generateEach_dry (names : List String) (w : Workspace) :
    ((generateEach (m := Session) resolve settings true names).run w).2 = w ∧
      ((generateEach (m := Session) resolve settings true names).run w).1.1 =
        names.map fun name =>
          (name, ((generateName (m := Session) resolve settings true name).run w).1.1) := by
  induction names with
  | nil => exact ⟨rfl, rfl⟩
  | cons name names ih =>
    rw [generateEach, Session.run_bind, run_generateName_dry, Session.run_bind]
    exact ⟨ih.1, congrArg (List.cons _) ih.2⟩

theorem same_or_attempted (h : w.Sound) (resolve : String → Except Failure Class)
    (settings : EmitSettings) (name : String) :
    ((generateName (m := Session) resolve settings false name).run w).2 = w ∨
      ∃ c, resolve name = .ok c ∧
        ((generateName (m := Session) resolve settings false name).run w).1.1.attempted? =
        some (settings.outputPath c.name) := by
  rw [generateName]
  cases hr : resolve name with
  | error failure => exact Or.inl rfl
  | ok c =>
    dsimp only
    have hx := exported_generateClass h settings name c
    generalize (generateClass (m := Session) settings false name c).run w = result at hx ⊢
    obtain ⟨⟨outcome, events⟩, w'⟩ := result
    cases hx with
    | kept => exact Or.inl rfl
    | lost => exact Or.inr ⟨c, rfl, rfl⟩
    | done => exact Or.inr ⟨c, rfl, rfl⟩

/-- Until a class comes to its write a run leaves everything as it is. -/
theorem same_or_reachesWrite (h : w.Sound) (resolve : String → Except Failure Class)
    (settings : EmitSettings) (names : List String) :
    ((generateEach (m := Session) resolve settings false names).run w).2 = w ∨
      ReachesWrite resolve settings
        ((generateEach (m := Session) resolve settings false names).run w).1.1 := by
  induction names with
  | nil => exact Or.inl rfl
  | cons name names ih =>
    rw [(run_generateEach_cons name names w).1, (run_generateEach_cons name names w).2]
    obtain hs | ⟨c, hr, ha⟩ := same_or_attempted h resolve settings name
    · rw [hs]
      refine ih.imp_right fun ⟨other, outcome, d, hm, hr, ha⟩ => ?_
      exact ⟨other, outcome, d, List.mem_cons_of_mem _ hm, hr, ha⟩
    · exact Or.inr ⟨name, _, c, List.mem_cons_self, hr, ha⟩

/-- A dry run changes nothing, and entry by entry its report is that of the real run: a name that is
not resolved fails in both and in no other way in either, a file that is kept is kept in both, and a
text that is shown is written, is lost in its write, or, when nothing is overwritten, is kept back
after a class before it has come to its write. -/
theorem Generation.dryRun_foretells_run {names : List String} {shown made : Report}
    {shownEvents madeEvents : List Event} {w₁ w₂ : Workspace} (h : w.Sound)
    (hd : (generate (m := Session) resolve settings true names).run w =
      ((shown, shownEvents), w₁))
    (hr : (generate (m := Session) resolve settings false names).run w =
      ((made, madeEvents), w₂)) :
    w₁ = w ∧ shown.entries.length = names.length ∧ made.entries.length = names.length ∧
    ∀ before name after, names = before ++ name :: after → ∃ dry real,
      shown.entries[before.length]? = some (name, dry) ∧
        made.entries[before.length]? = some (name, real) ∧
      Foretells resolve settings (made.entries.take before.length) name dry real ∧
      (∀ asked failure, failure.IsLookup asked →
        (dry = .failed failure ↔ real = .failed failure)) ∧
      (∀ source : ClassSource, resolve = source.resolve → ∀ failure, dry = .failed failure →
        failure.IsLookup name) := by
  obtain ⟨hs, he⟩ := @run_generateEach_dry resolve settings names w
  have hn := @length_generateEach resolve settings names w
  cases hd
  cases hr
  refine ⟨hs, (congrArg List.length he).trans (List.length_map _), hn, ?_⟩
  rintro before name after rfl
  obtain ⟨hg, ht⟩ := @getElem?_generateEach resolve settings before name after w
  have hf : Foretells resolve settings _ name _ _ :=
    foretells_generateName (leaves_generateEach h resolve settings before).later
      (same_or_reachesWrite h resolve settings before) name
  refine ⟨_, _, ?_, hg, ht ▸ hf, fun _ _ hl => hf.failed_iff hl, ?_⟩
  · refine (congrArg (·[before.length]?) he).trans ?_
    rw [List.map_append, List.map_cons, List.getElem?_append_right (by simp),
      List.length_map, Nat.sub_self]
    rfl
  · rintro source rfl failure hd
    exact ClassSource.isLookup_of_resolve source (hf.resolve_of_failed hd)

/-- The second class is shown by the dry run; the real run finds the file of the first one and keeps
it. -/
theorem Generation.dryRun_foretells_homonym :
    Workspace.Sound ⟨.empty, []⟩ ∧ ∃ dry real,
      ((generate (m := Session) ClassSource.homonyms.resolve { overwrite := false } true
        ["a.User", "c.User", "b.User"]).run ⟨.empty, []⟩).1.1.entries[2]? =
          some ("b.User", dry) ∧
      ((generate (m := Session) ClassSource.homonyms.resolve { overwrite := false } false
        ["a.User", "c.User", "b.User"]).run ⟨.empty, []⟩).1.1.entries[2]? =
          some ("b.User", real) ∧
      Foretells ClassSource.homonyms.resolve { overwrite := false }
        (((generate (m := Session) ClassSource.homonyms.resolve { overwrite := false } false
          ["a.User", "c.User", "b.User"]).run ⟨.empty, []⟩).1.1.entries.take 2)
            "b.User" dry real := by
  have h : Workspace.Sound ⟨.empty, []⟩ := ⟨wellFormed_empty, rfl⟩
  rcases hd : (generate (m := Session) ClassSource.homonyms.resolve { overwrite := false } true
    ["a.User", "c.User", "b.User"]).run ⟨.empty, []⟩ with ⟨⟨shown, shownEvents⟩, w₁⟩
  rcases hr : (generate (m := Session) ClassSource.homonyms.resolve { overwrite := false } false
    ["a.User", "c.User", "b.User"]).run ⟨.empty, []⟩ with ⟨⟨made, madeEvents⟩, w₂⟩
  obtain ⟨-, -, -, hall⟩ := Generation.dryRun_foretells_run h hd hr
  obtain ⟨dry, real, hs, hm, hf, -⟩ := hall ["a.User", "c.User"] "b.User" [] rfl
  exact ⟨h, dry, real, hs, hm, hf⟩

end ClassExport
