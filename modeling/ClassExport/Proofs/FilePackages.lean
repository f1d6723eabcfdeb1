import ClassExport.Proofs.ItemPaths

/-!
The package of a source file: the name of its crate and its modules, whatever was read before it and
whatever the manifests say that do not count for it.
-/
namespace ClassExport.Scan

open FileTree Disk

variable {w : Workspace} {t t' : FileTree} {base folder : Location} {root : Path}
  {title stem : String} {dirs crate segments way : List String}

/-- The last folder on the way to a file that holds a manifest. -/
structure NearestCrate (t : FileTree) (base : Location) (dirs crate : List String) : Prop where
  above : crate <+: dirs
  manifest : (t.content? (base ++ crate ++ [manifestName])).isSome
  nearest : ∀ inner, crate <+: inner → inner <+: dirs → inner ≠ crate →
    t.content? (base ++ inner ++ [manifestName]) = none

/-- What the package of a file in the folder of `dirs` is made from: the name of the nearest crate,
and the modules that lead to the file from the sources of the crate, or from the crate where the
file is not among them. Where there is no crate, the modules lead to the file from the folder that
is scanned, whose own name is `title`. -/
inductive Segments (t : FileTree) (base : Location) (title : String)
    (dirs : List String) (stem : String) :
    List String → Prop where
  | source {crate below : List String} (h : NearestCrate t base dirs crate)
      (hd : dirs = crate ++ "src" :: below) :
      Segments t base title dirs stem
        (crateTitle (t.content? (base ++ crate ++ [manifestName])) (crate.getLast?.getD title) ::
          modulePath below stem)
  | beside {crate below : List String} (h : NearestCrate t base dirs crate)
      (hd : dirs = crate ++ below)
      (hs : below.head? ≠ some "src") :
      Segments t base title dirs stem
        (crateTitle (t.content? (base ++ crate ++ [manifestName])) (crate.getLast?.getD title) ::
          modulePath below stem)
  | loose (h : ∀ inner, inner <+: dirs → t.content? (base ++ inner ++ [manifestName]) = none) :
      Segments t base title dirs stem (modulePath dirs stem)

/-- Folders whose manifests do not count for what is in the folder of `dirs`: those above the root,
those beyond another folder with a manifest, and those that do not contain it. -/
inductive Uncounted (t : FileTree) (base : Location) (dirs : List String) : Location → Prop where
  | above {folder : Location} (h : folder <+: base) (hne : folder ≠ base) :
      Uncounted t base dirs folder
  | beyond {folder : Location} {nearer : List String} (h : folder <+: base ++ nearer)
      (hne : folder ≠ base ++ nearer)
      (hn : nearer <+: dirs) (hm : (t.content? (base ++ nearer ++ [manifestName])).isSome) :
        Uncounted t base dirs folder
  | aside {folder : Location} (h : ¬ folder <+: base ++ dirs) : Uncounted t base dirs folder

/-- Trees that differ in the manifests of certain folders only: some are added, edited or
removed. -/
structure SameButManifests (t t' : FileTree) (changes : Location → Prop) : Prop where
  folders : ∀ place, t'.get? place = some .folder ↔ t.get? place = some .folder
  others : ∀ place, (∀ folder, place = folder ++ [manifestName] → ¬ changes folder) →
    t'.get? place = t.get? place

/-- The package of the file that names lead to, whatever files were read before. -/
def UsesPackage (w : Workspace) (root : Path) (way : List String) (package : String) : Prop :=
  ∀ visited : List (List String), ∃ found names,
    (visited.foldlM (addFile (m := Session) root) {}).run w = (found, w) ∧
    (packageKnowing found.names root (pathTo root way) : Session _).run w = ((package, names), w)

/-! The nearest crate. -/

theorem exists_nearestCrate_or (t : FileTree) (base : Location) (dirs : List String) :
    (∃ crate, NearestCrate t base dirs crate) ∨
      ∀ inner, inner <+: dirs → t.content? (base ++ inner ++ [manifestName]) = none := by
  induction dirs using List.reverseRecOn with
  | nil =>
    cases hm : t.content? (base ++ [] ++ [manifestName]) with
    | some bytes =>
      left
      refine ⟨[], List.prefix_rfl, by rw [hm]; rfl, ?_⟩
      intro inner _ hi hne
      exact (hne (List.prefix_nil.mp hi)).elim
    | none =>
      right
      intro inner hi
      rwa [List.prefix_nil.mp hi]
  | append_singleton dirs s ih =>
    cases hm : t.content? (base ++ (dirs ++ [s]) ++ [manifestName]) with
    | some bytes =>
      left
      refine ⟨dirs ++ [s], List.prefix_rfl, by rw [hm]; rfl, ?_⟩
      intro inner hc hi hne
      exact (hne (hi.eq_of_length (hi.length_le.antisymm hc.length_le))).elim
    | none =>
      -- the folders further up are those on the way to the folder above
      rcases ih with ⟨crate, h⟩ | h
      · left
        refine ⟨crate, h.above.trans (List.prefix_append _ _), h.manifest, ?_⟩
        intro inner hc hi hne
        rcases List.prefix_concat_iff.mp hi with rfl | hi
        · exact hm
        · exact h.nearest inner hc hi hne
      · right
        intro inner hi
        rcases List.prefix_concat_iff.mp hi with rfl | hi
        · exact hm
        · exact h inner hi

theorem exists_segments (t : FileTree) (base : Location) (title : String)
    (dirs : List String) (stem : String) :
    ∃ segments, Segments t base title dirs stem segments := by
  rcases exists_nearestCrate_or t base dirs with ⟨crate, h⟩ | h
  · obtain ⟨below, rfl⟩ := h.above
    by_cases hs : below.head? = some "src"
    · obtain ⟨rest, rfl⟩ := List.head?_eq_some_iff.mp hs
      exact ⟨_, .source h rfl⟩
    · exact ⟨_, .beside h rfl hs⟩
  · exact ⟨_, .loose h⟩

theorem NearestCrate.crateAt?_eq (h : NearestCrate t base dirs crate) :
    crateAt? t base dirs = some crate := by
  obtain ⟨below, rfl⟩ := h.above
  apply crateAt?_append h.manifest
  intro inner hi hne
  apply h.nearest
  · exact List.prefix_append _ _
  · exact (List.prefix_append_right_inj crate).mpr hi
  · simpa using hne

theorem packageBelow_of_nearestCrate {below : List String}
    (h : NearestCrate t base (crate ++ below) crate) (hs : stem ≠ "")
    (hb : belowSources (below ++ [stem ++ ".rs"]) = segments ++ [stem ++ ".rs"]) :
    packageBelow t base title (crate ++ below ++ [stem ++ ".rs"]) = packageText
      (crateTitle (t.content? (base ++ crate ++ [manifestName])) (crate.getLast?.getD title) ::
        modulePath segments stem) := by
  rw [packageBelow, List.dropLast_concat, h.crateAt?_eq]
  dsimp only
  rw [List.append_assoc crate, List.drop_left, hb, moduleNames_source hs, packageText]

/-- The segments are those that the package is made from. -/
theorem Segments.packageBelow_eq (h : Segments t base title dirs stem segments) (hs : stem ≠ "") :
    packageBelow t base title (dirs ++ [stem ++ ".rs"]) = packageText segments := by
  cases h with
  | source h hd =>
    subst hd
    exact packageBelow_of_nearestCrate h hs rfl
  | @beside crate below h hd hsrc =>
    subst hd
    apply packageBelow_of_nearestCrate h hs
    rw [belowSources, if_neg]
    cases below with
    | nil =>
      -- what the file is called is not the name of a folder of sources
      intro he
      have hdot : '.' ∈ "src".toList := by
        rw [← Option.some.inj he]
        simp
      exact absurd hdot (by decide)
    | cons s rest => exact hsrc
  | loose h =>
    have hnone : crateAt? t base dirs = none := by
      rw [crateAt?, List.find?_eq_none]
      intro inner hi
      rw [h inner ((List.mem_inits _ _).mp (List.mem_reverse.mp hi))]
      exact Bool.false_ne_true
    rw [packageBelow, List.dropLast_concat, hnone]
    dsimp only
    rw [moduleNames_source hs, packageText]

/-! Manifests that do not count. -/

/-- A manifest counts when no folder between it and the file has one. -/
theorem not_uncounted {inner : List String} (hi : inner <+: dirs)
    (hn : ∀ nearer, inner <+: nearer → nearer <+: dirs → nearer ≠ inner →
      t.content? (base ++ nearer ++ [manifestName]) = none) : ¬ Uncounted t base dirs
        (base ++ inner) := by
  intro hu
  cases hu with
  | above hb hne =>
    have hlen := hb.length_le
    rw [List.length_append] at hlen
    apply hne
    rw [List.length_eq_zero_iff.mp (by omega : inner.length = 0), List.append_nil]
  | beyond hb hne hd hm =>
    rw [List.prefix_append_right_inj] at hb
    rw [hn _ hb hd fun he => hne (he ▸ rfl)] at hm
    cases hm
  | aside ha => exact ha ((List.prefix_append_right_inj base).mpr hi)

theorem NearestCrate.not_uncounted (h : NearestCrate t base dirs crate) {inner : List String}
    (hc : crate <+: inner) (hi : inner <+: dirs) : ¬ Uncounted t base dirs (base ++ inner) := by
  apply Scan.not_uncounted hi
  intro nearer hb hd hne
  apply h.nearest nearer (hc.trans hb) hd
  rintro rfl
  exact hne (hc.eq_of_length (hc.length_le.antisymm hb.length_le))

theorem SameButManifests.refl (t : FileTree) (changes : Location → Prop) :
    SameButManifests t t changes :=
  ⟨fun _ => Iff.rfl, fun _ _ => rfl⟩

theorem SameButManifests.content?_eq {changes : Location → Prop}
    (h : SameButManifests t t' changes) (hf : ¬ changes folder) :
    t'.content? (folder ++ [manifestName]) = t.content? (folder ++ [manifestName]) := by
  have hplace : t'.get? (folder ++ [manifestName]) = t.get? (folder ++ [manifestName]) := by
    apply h.others
    intro other he
    rwa [← List.append_inj_left' he rfl]
  rw [content?, content?, hplace]

theorem NearestCrate.congr (h : NearestCrate t base dirs crate)
    (hm : SameButManifests t t' (Uncounted t base dirs)) : NearestCrate t' base dirs crate where
  above := h.above
  manifest := by
    rw [hm.content?_eq (h.not_uncounted List.prefix_rfl h.above)]
    exact h.manifest
  nearest inner hc hi hne := by
    rw [hm.content?_eq (h.not_uncounted hc hi)]
    exact h.nearest inner hc hi hne

theorem Segments.congr (h : Segments t base title dirs stem segments)
    (hm : SameButManifests t t' (Uncounted t base dirs)) :
    Segments t' base title dirs stem segments := by
  cases h with
  | source h hd =>
    rw [← hm.content?_eq (h.not_uncounted List.prefix_rfl h.above)]
    exact .source (h.congr hm) hd
  | beside h hd hs =>
    rw [← hm.content?_eq (h.not_uncounted List.prefix_rfl h.above)]
    exact .beside (h.congr hm) hd hs
  | loose h =>
    apply Segments.loose
    intro inner hi
    rw [hm.content?_eq (not_uncounted hi fun nearer _ hd _ => h nearer hd)]
    exact h inner hi

theorem Scannable.of_sameButManifests {changes : Location → Prop} (h : Scannable w root base)
    (ht : t.WellFormed) (hn : t.Named) (hm : SameButManifests w.tree t changes) :
    Scannable ⟨t, w.folder⟩ root base where
  tree := ht
  named := hn
  opens := {
    plain := h.opens.plain
    text := h.opens.text
    parts := ⟨fun l hl => (hm.folders l).mpr (h.opens.parts.1 l hl), h.opens.parts.2⟩
    base := h.opens.base }

theorem Placed.of_sameButManifests {changes : Location → Prop} {name : String}
    (h : Placed t base dirs name) (hm : SameButManifests t t' changes) : Placed t' base dirs name :=
  ⟨h.plain, h.last, fun inner hi => (hm.folders _).mpr (h.folder inner hi)⟩

theorem Segments.usesPackage (h : Segments w.tree base (root.fileName?.getD "") dirs stem segments)
    (hr : Scannable w root base) (hp : Placed w.tree base dirs (stem ++ ".rs")) (hs : stem ≠ "") :
    UsesPackage w root (dirs ++ [stem ++ ".rs"])
      (".".intercalate (segments.filter (· ≠ ""))) := by
  intro visited
  obtain ⟨names, hn, hvisited⟩ := run_addFiles_eq root visited {} (CrateNames.current_nil w)
  obtain ⟨names', hpackage, -⟩ :=
    run_packageKnowing hn root (pathTo root (dirs ++ [stem ++ ".rs"]))
  refine ⟨_, names', hvisited, ?_⟩
  rw [hpackage, packageFrom_eq hr hp, h.packageBelow_eq hs, packageText]

/-- The package of a source file is made of the name of its nearest crate and of the modules that
lead to it, without the empty ones among them. Whatever files were read before, the package is the
same; and it stays the same when manifests that do not count for the file are added, edited or
removed. -/
theorem package_of_file {bytes : ByteArray} (hw : w.tree.WellFormed) (hn : w.tree.Named)
    (hl : w.tree.locate w.folder root = .ok (base, .folder)) (hs : stem ≠ "")
    (hf : w.tree.content? (base ++ (dirs ++ [stem ++ ".rs"])) = some bytes) :
    ∃ segments, Segments w.tree base (root.fileName?.getD "") dirs stem segments ∧
      UsesPackage w root (dirs ++ [stem ++ ".rs"])
        (".".intercalate (segments.filter (· ≠ ""))) ∧
      ∀ tree, tree.WellFormed → tree.Named →
        SameButManifests w.tree tree (Uncounted w.tree base dirs) →
        UsesPackage ⟨tree, w.folder⟩ root (dirs ++ [stem ++ ".rs"])
          (".".intercalate (segments.filter (· ≠ ""))) := by
  have hr : Scannable w root base := ⟨hw, hn, Workspace.opens_of_locate hl⟩
  have hp : Placed w.tree base dirs (stem ++ ".rs") := placed_of_file hw hn (content?_eq_some.mp hf)
  obtain ⟨segments, h⟩ := exists_segments w.tree base (root.fileName?.getD "") dirs stem
  refine ⟨segments, h, h.usesPackage hr hp hs, ?_⟩
  intro tree ht hn' hm
  exact (h.congr hm).usesPackage (hr.of_sameButManifests ht hn' hm) (hp.of_sameButManifests hm) hs

/-- The tree of one crate, and a manifest in the folder above the crate. -/
def crateBelowManifest : FileTree :=
  (loneCrate "my-backend").set [manifestName] (.file (manifestOf "above").toUTF8)

theorem get?_above : (loneCrate "my-backend").get? [manifestName] = none := by
  rw [get?_loneCrate _ (List.cons_ne_nil _ _)]
  decide

theorem sound_crateBelowManifest : crateBelowManifest.WellFormed ∧ crateBelowManifest.Named := by
  have hcrate :=
    sound_loneCrate (n := "my-backend") ⟨by decide, by decide, by decide, by decide⟩
  exact sound_set [] manifestName _ hcrate rfl get?_above plainName_manifest

/-- The manifest of the crate is nearer than the one above it. -/
theorem sameButManifests_crateBelowManifest :
    SameButManifests (loneCrate "my-backend") crateBelowManifest
      (Uncounted (loneCrate "my-backend") [] ["my-backend", "src"]) := by
  constructor
  · intro place
    rw [crateBelowManifest, get?_set (List.cons_ne_nil _ _)]
    split
    · rename_i he
      rw [he, get?_above]
      exact iff_of_false nofun nofun
    · rfl
  · intro place hp
    rw [crateBelowManifest, get?_set (List.cons_ne_nil _ _), if_neg]
    rintro rfl
    apply hp [] rfl
    have hbelow : ([] : Location) <+: [] ++ ["my-backend"] := List.nil_prefix
    apply Uncounted.beyond hbelow (by decide) ⟨["src"], rfl⟩
    rw [content?, get?_loneCrate _ (by simp)]
    decide

theorem package_of_file_below_manifest :
    (loneCrate "my-backend").WellFormed ∧ (loneCrate "my-backend").Named ∧
      (loneCrate "my-backend").locate [] ⟨"."⟩ = .ok ([], .folder) ∧ "lib" ≠ "" ∧
      (loneCrate "my-backend").content? ["my-backend", "src", "lib.rs"] =
        some "struct A;".toUTF8 ∧
      UsesPackage ⟨loneCrate "my-backend", []⟩ ⟨"."⟩ ["my-backend", "src", "lib.rs"]
        "my_backend" ∧
      UsesPackage ⟨crateBelowManifest, []⟩ ⟨"."⟩ ["my-backend", "src", "lib.rs"]
        "my_backend" := by
  obtain ⟨hw, hn⟩ :=
    sound_loneCrate (n := "my-backend") ⟨by decide, by decide, by decide, by decide⟩
  have hl : (loneCrate "my-backend").locate [] ⟨"."⟩ = .ok ([], .folder) := rfl
  have hf : (loneCrate "my-backend").content? ([] ++ (["my-backend", "src"] ++ ["lib" ++ ".rs"])) =
      some "struct A;".toUTF8 := content?_loneCrate "my-backend"
  obtain ⟨segments, -, hu, hm⟩ :=
    package_of_file (w := ⟨loneCrate "my-backend", []⟩) hw hn hl (by decide : "lib" ≠ "") hf
  have hpackage : ".".intercalate (segments.filter (· ≠ "")) = "my_backend" := by
    obtain ⟨found, names, hr, hp⟩ := hu []
    cases hr
    have hread : ((packageKnowing [] ⟨"."⟩
        (pathTo ⟨"."⟩ (["my-backend", "src"] ++ ["lib" ++ ".rs"])) : Session _).run
          ⟨loneCrate "my-backend", []⟩).1.1 = "my_backend" := by
      decide +kernel
    rwa [hp] at hread
  rw [hpackage] at hu hm
  obtain ⟨hw', hn'⟩ := sound_crateBelowManifest
  exact ⟨hw, hn, hl, by decide, hf, hu,
    hm crateBelowManifest hw' hn' sameButManifests_crateBelowManifest⟩

end ClassExport.Scan
