import ClassExport.Proofs.CrateNames
import ClassExport.Proofs.Crates

/-!
Classes that were scanned, asked for by the paths of their structs: the crate, the modules and the
struct, joined by pairs of colons.
-/
namespace ClassExport

open FileTree Disk

variable {w : Workspace} {t : FileTree} {base place : Location} {root : Path}
  {n s name q text : String} {r : Registry} {crate dirs modules names rest segments : List String}
  {stem : String} {items : List Source.Item} {c : Class} {cs : List Class}

/-! Joined segments. -/

theorem intercalate_cons_joined (hs : segments ≠ []) (rest : List String) :
    ".".intercalate (".".intercalate segments :: rest) = ".".intercalate (segments ++ rest) := by
  cases rest with
  | nil => rw [String.intercalate_singleton, List.append_nil]
  | cons r rest =>
    rw [String.intercalate_append_of_ne_nil hs (List.cons_ne_nil r rest),
      String.intercalate_cons_cons]

theorem intercalate_ne_empty (hs : s ≠ "") (rest : List String) :
    ".".intercalate (s :: rest) ≠ "" := by
  cases rest with
  | nil => rwa [String.intercalate_singleton]
  | cons r rest =>
    rw [String.intercalate_cons_cons]
    simp

theorem Class.qualifiedName_of_package (hs : s ≠ "")
    (hp : c.package = ".".intercalate (s :: segments)) :
    c.qualifiedName = ".".intercalate (s :: (segments ++ [c.name])) := by
  have hne : c.package ≠ "" := by
    rw [hp]
    exact intercalate_ne_empty hs segments
  rw [qualifiedName, if_neg hne, hp, ← List.cons_append,
    String.intercalate_append_of_ne_nil (List.cons_ne_nil s segments) (List.cons_ne_nil c.name []),
    String.intercalate_singleton]

/-! What a registry knows. -/

theorem exists_mem_firstDefinitions (h : c ∈ cs) :
    ∃ d ∈ firstDefinitions cs, d.qualifiedName = c.qualifiedName := by
  induction cs with
  | nil => cases h
  | cons b cs ih =>
    by_cases hb : b.qualifiedName = c.qualifiedName
    · exact ⟨b, List.mem_cons_self, hb⟩
    · rcases List.mem_cons.mp h with rfl | h
      · exact (hb rfl).elim
      · obtain ⟨d, hd, hq⟩ := ih h
        refine ⟨d, List.mem_cons_of_mem b (List.mem_filter.mpr ⟨hd, ?_⟩), hq⟩
        rw [hq]
        exact decide_eq_true (Ne.symm hb)

/-- The answer to a name is the class of this very name when one is known. -/
theorem Registry.exists_resolve_iff (h : ClassName.normalize name = q) :
    (∃ d, r.resolve name = .ok d ∧ d.qualifiedName = q) ↔ q ∈ r.known := by
  rw [Registry.mem_known]
  constructor
  · rintro ⟨d, hd, hq⟩
    refine ⟨d, ?_, hq⟩
    cases Registry.resolve_eq_iff.mp hd with
    | exact hc _ => exact hc
    | only hx _ _ hm => exact (List.mem_filter.mp (hm ▸ List.mem_singleton_self d)).1
  · rintro ⟨d, hd, hq⟩
    exact ⟨d, Registry.resolve_of_find?_eq_some
      (Registry.find?_eq_some_iff.mpr ⟨hd, hq.trans h.symm⟩), hq⟩

namespace Source

theorem packageWithin_of_ne {package : String} (h : package ≠ "") (modules : List String) :
    packageWithin package modules = ".".intercalate (package :: modules) := by
  rw [packageWithin, List.dropWhile_cons_of_neg (by simpa using h)]

/-- One struct of this name and nothing in it. -/
def isUnitStruct (name : String) : List Item → Bool
  | [.struct found .unit] => found = name
  | _ => false

theorem isUnitStruct_iff : isUnitStruct name items ↔ items = [.struct name .unit] := by
  fun_cases isUnitStruct name items <;> simp_all

end Source

namespace Scan

/-- A struct with named fields or none stands in the source text of a file, inside modules of these
names. -/
def HoldsStruct (t : FileTree) (place : Location) (modules : List String) (name : String) : Prop :=
  ∃ bytes text items address scope body, t.content? place = some bytes ∧
    textOf bytes = .ok text ∧
    Source.items? text = some items ∧
      Source.StructAt items address modules scope name body ∧ body ≠ .tuple

/-- The modules that lead to what a file holds; three names stand for the folder that the file is
in. -/
def modulePath (dirs : List String) (stem : String) : List String :=
  dirs ++ if stem ∈ ["lib", "main", "mod"] then [] else [stem]

/-- The names after that of the crate in the path of a struct. -/
def itemPath (dirs : List String) (stem : String) (modules : List String) (name : String) :
    List String :=
  modulePath dirs stem ++ modules ++ [name]

/-- The names that lead to a file among the sources of a crate. -/
def sourceWay (crate dirs : List String) (stem : String) : List String :=
  crate ++ "src" :: (dirs ++ [stem ++ ".rs"])

/-- A file among the sources of a crate whose manifest gives it the name `n`. -/
structure CrateFile (t : FileTree) (base : Location) (crate : List String) (n : String)
    (dirs : List String) (stem : String) : Prop where
  file : SourceAt t base (sourceWay crate dirs stem)
  named : declaredName? (t.content? (base ++ crate ++ [manifestName])) = some n
  /-- No folder on the way to the file is a crate of its own. -/
  nearest : ∀ inner, inner <+: "src" :: dirs → inner ≠ [] →
    t.content? (base ++ (crate ++ inner) ++ [manifestName]) = none
  plain : ∀ s ∈ dirs ++ [stem], Text.isIdentifier s.toList

theorem crateAt?_append (hs : (t.content? (base ++ crate ++ [manifestName])).isSome)
    (hn : ∀ inner, inner <+: rest → inner ≠ [] →
      t.content? (base ++ (crate ++ inner) ++ [manifestName]) = none) :
    crateAt? t base (crate ++ rest) = some crate := by
  have hinits : ∀ (names : List String) (s : String),
      (names ++ [s]).inits.reverse = (names ++ [s]) :: names.inits.reverse := by
    intro names s
    rw [List.inits_append, List.reverse_append]
    rfl
  -- from the end, since the folder nearest to the file is asked first
  induction rest using List.reverseRecOn with
  | nil =>
    rw [List.append_nil, crateAt?]
    rcases List.eq_nil_or_concat crate with rfl | ⟨init, s, rfl⟩
    · exact List.find?_cons_of_pos hs
    · rw [List.concat_eq_append, hinits]
      exact List.find?_cons_of_pos (by rwa [List.concat_eq_append] at hs)
  | append_singleton rest s ih =>
    have hnone := hn (rest ++ [s]) List.prefix_rfl (by simp)
    rw [crateAt?, ← List.append_assoc, hinits, List.find?_cons_of_neg]
    · exact ih fun inner hi hne => hn inner (hi.trans (List.prefix_append _ _)) hne
    · rw [List.append_assoc crate, hnone]
      exact Bool.false_ne_true

theorem moduleNames_source (hs : stem ≠ "") :
    moduleNames ((dirs ++ [stem ++ ".rs"]).map .name) = modulePath dirs stem := by
  have hcut : Path.cutExtension (stem ++ ".rs") = (stem, some "rs") := by
    refine Path.cutExtension_eq_iff.mpr ⟨hs, by decide, ?_⟩
    rw [String.append_assoc]
    rfl
  have hname : Path.nameOf? ((dirs ++ [stem ++ ".rs"]).map .name) = some (stem ++ ".rs") :=
    Path.nameOf?_eq_some_iff.mpr ⟨dirs.map .name, by simp⟩
  have htext : (dirs.map Path.Component.name).map Path.Component.text = dirs := by
    rw [List.map_map]
    exact List.map_id dirs
  rw [moduleNames, hname, Option.map_some, hcut, List.map_append, List.map_singleton,
    List.dropLast_concat, htext, modulePath]
  by_cases hm : stem ∈ ["lib", "main", "mod"]
  · have hc : ["lib", "main", "mod"].contains stem = true := List.contains_iff_mem.mpr hm
    rw [if_pos hm, Option.filter_some_neg (by rw [hc]; rfl)]
    rfl
  · rw [if_neg hm, Option.filter_some_pos (by simpa using hm)]
    rfl

theorem CrateFile.ne_empty (h : CrateFile t base crate n dirs stem) :
    ∀ s ∈ dirs ++ [stem], s ≠ "" := by
  rintro s hs rfl
  exact Text.ne_nil_of_isIdentifier (h.plain "" hs) rfl

theorem mem_of_mem_modulePath (h : s ∈ modulePath dirs stem) : s ∈ dirs ++ [stem] := by
  rw [modulePath] at h
  rcases List.mem_append.mp h with h | h
  · exact List.mem_append_left _ h
  · split at h
    · cases h
    · exact List.mem_append_right _ h

/-- The package of a file among the sources of a crate. -/
theorem CrateFile.packageAt_eq (h : CrateFile w.tree base crate n dirs stem)
    (hs : Scannable w root base) (hn : Text.LowerName n) :
    packageAt w root (sourceWay crate dirs stem) =
      ".".intercalate (Text.snakeCase n :: modulePath dirs stem) := by
  have hmanifest : (w.tree.content? (base ++ crate ++ [manifestName])).isSome := by
    have hnamed := h.named
    rw [declaredName?] at hnamed
    obtain ⟨bytes, hb, -⟩ := Option.bind_eq_some_iff.mp hnamed
    rw [hb]
    rfl
  have hcrate : crateAt? w.tree base (crate ++ "src" :: dirs) = some crate :=
    crateAt?_append hmanifest h.nearest
  have hfolder : (sourceWay crate dirs stem).dropLast = crate ++ "src" :: dirs := by
    have hway : sourceWay crate dirs stem = (crate ++ "src" :: dirs) ++ [stem ++ ".rs"] := by
      simp [sourceWay]
    rw [hway, List.dropLast_concat]
  have hbelow : belowSources ((sourceWay crate dirs stem).drop crate.length) =
      dirs ++ [stem ++ ".rs"] := by
    rw [sourceWay, List.drop_left]
    rfl
  have hstem : stem ≠ "" := h.ne_empty stem (by simp)
  have hfull : ∀ s ∈ Text.snakeCase n :: modulePath dirs stem, s ≠ "" := by
    intro s hm
    rcases List.mem_cons.mp hm with rfl | hm
    · exact Text.snakeCase_ne_empty hn
    · exact h.ne_empty s (mem_of_mem_modulePath hm)
  rw [Scan.packageAt_eq hs h.file, packageBelow, hfolder, hcrate]
  dsimp only
  rw [hbelow, crateTitle, h.named, Option.getD_some, moduleNames_source hstem,
    List.filter_eq_self.mpr fun s hm => decide_eq_true (hfull s hm)]

/-- The class of a struct among the sources of a crate is named by the snake case of the name of the
crate, the modules and its own name. -/
theorem CrateFile.exists_declared (h : CrateFile w.tree base crate n dirs stem)
    (hs : Scannable w root base) (hn : Text.LowerName n)
    (hh : HoldsStruct w.tree (base ++ sourceWay crate dirs stem) modules name) :
    ∃ c ∈ declared w root base (sourceWay crate dirs stem),
      c.qualifiedName = ".".intercalate (Text.snakeCase n :: itemPath dirs stem modules name) := by
  obtain ⟨bytes, text, items, address, scope, body, hc, ht, hi, hat, hb⟩ := hh
  obtain ⟨fields, hd⟩ := hat.exists_declaredAt hb (packageAt w root (sourceWay crate dirs stem))
  have hpackage : packageAt w root (sourceWay crate dirs stem) ≠ "" := by
    rw [h.packageAt_eq hs hn]
    exact intercalate_ne_empty (Text.snakeCase_ne_empty hn) _
  have hjoined : Source.packageWithin (packageAt w root (sourceWay crate dirs stem)) modules =
      ".".intercalate (Text.snakeCase n :: (modulePath dirs stem ++ modules)) := by
    rw [Source.packageWithin_of_ne hpackage, h.packageAt_eq hs hn,
      intercalate_cons_joined (List.cons_ne_nil _ _)]
    rfl
  have hmem := Source.mem_classesOf_iff.mpr ⟨address, hd⟩
  refine ⟨_, ?_, Class.qualifiedName_of_package (c := ⟨name, _, fields⟩)
    (Text.snakeCase_ne_empty hn) hjoined⟩
  rw [declared, hc]
  dsimp only
  rw [classesIn, ht]
  dsimp only
  rw [Source.classes_eq_ok _ hi]
  exact hmem

theorem HoldsStruct.words (h : HoldsStruct t place modules name) :
    ∀ s ∈ modules ++ [name], Source.isWord s.toList := by
  obtain ⟨_, _, _, _, _, _, -, -, hi, hat, -⟩ := h
  exact hat.words (Source.worded_of_items? hi)

theorem CrateFile.segment_of_mem (h : CrateFile t base crate n dirs stem)
    (hh : HoldsStruct t place modules name) :
    ∀ s ∈ itemPath dirs stem modules name, ClassName.Segment s := by
  intro s hs
  rw [itemPath, List.append_assoc] at hs
  rcases List.mem_append.mp hs with hs | hs
  · exact ClassName.segment_of_isIdentifier (h.plain s (mem_of_mem_modulePath hs))
  · exact ClassName.segment_of_isWord (hh.words s hs)

/-- Segments joined by pairs of colons are answered with a class whose qualified name they are. -/
def Finds (r : Registry) (segments : List String) : Prop :=
  ∃ d, r.resolve ("::".intercalate segments) = .ok d ∧
    d.qualifiedName = ".".intercalate segments

theorem finds_iff (h : ∀ s ∈ segments, ClassName.Segment s) :
    Finds r segments ↔ ".".intercalate segments ∈ r.known :=
  Registry.exists_resolve_iff (ClassName.normalize_intercalate h)

/-- A struct among the sources of a crate is found by its path when the path begins with the snake
case of the name of the crate. That is the name with underscores in the place of hyphens, unless a
digit stands beside a letter in it; then what has the path that is written with the name itself is
another class or none. -/
theorem resolve_itemPath_iff (hw : w.tree.WellFormed) (hn : w.tree.Named)
    (hl : w.tree.locate w.folder root = .ok (base, .folder)) :
    ∃ r, (scan (m := Session) root).run.run w = (.ok r, w) ∧
      ∀ crate n dirs stem modules name,
        CrateFile w.tree base crate n dirs stem → Text.LowerName n →
        HoldsStruct w.tree (base ++ sourceWay crate dirs stem) modules name →
        Finds r (Text.snakeCase n :: itemPath dirs stem modules name) ∧
        (".".intercalate (Text.snakeCase n :: itemPath dirs stem modules name) =
          ".".intercalate (Text.underscored n :: itemPath dirs stem modules name) ↔
            Text.Unsplit n) ∧
        (Text.Unsplit n → Finds r (Text.underscored n :: itemPath dirs stem modules name)) ∧
        (Finds r (Text.underscored n :: itemPath dirs stem modules name) ↔
          ".".intercalate (Text.underscored n :: itemPath dirs stem modules name) ∈ r.known) := by
  have hs : Scannable w root base := ⟨hw, hn, Workspace.opens_of_locate hl⟩
  refine ⟨_, run_scan hs, fun crate n dirs stem modules name hf hc hh => ?_⟩
  have hsegments := hf.segment_of_mem hh
  have hsnake : ∀ s ∈ Text.snakeCase n :: itemPath dirs stem modules name,
      ClassName.Segment s :=
    List.forall_mem_cons.mpr ⟨Text.segment_snakeCase hc, hsegments⟩
  have hwritten : ∀ s ∈ Text.underscored n :: itemPath dirs stem modules name,
      ClassName.Segment s :=
    List.forall_mem_cons.mpr ⟨Text.segment_underscored hc, hsegments⟩
  have hfound : Finds
      (.ofList ((sourceFiles (w.tree.filesBelow isEntered base)).flatMap (declared w root base)))
      (Text.snakeCase n :: itemPath dirs stem modules name) := by
    -- where the file declares the class twice, or another file does so before, it is the earlier
    -- one that is known
    obtain ⟨c, hd, hq⟩ := hf.exists_declared hs hc hh
    rw [finds_iff hsnake, ← hq, Registry.mem_known, Registry.toList_ofList]
    exact exists_mem_firstDefinitions
      (List.mem_flatMap.mpr ⟨_, (mem_sourceFiles hw).mpr hf.file, hd⟩)
  have hsame : ".".intercalate (Text.snakeCase n :: itemPath dirs stem modules name) =
      ".".intercalate (Text.underscored n :: itemPath dirs stem modules name) ↔ Text.Unsplit n :=
    intercalate_cons_inj.trans (Text.snakeCase_eq_iff hc)
  refine ⟨hfound, hsame, fun hu => ?_, finds_iff hwritten⟩
  rwa [← (Text.snakeCase_eq_iff hc).mpr hu]

/-- The manifest of a package of this name. -/
def manifestOf (n : String) : String := "[package]\nname = \"" ++ n ++ "\""

/-- A tree with one crate, which has one source file; the folder and the package have one name. -/
def loneCrate (n : String) : FileTree :=
  (((FileTree.empty.set [n] .folder).set [n, manifestName] (.file (manifestOf n).toUTF8)).set
    [n, "src"] .folder).set [n, "src", "lib.rs"] (.file "struct A;".toUTF8)

theorem get?_loneCrate (n : String) (hp : place ≠ []) :
    (loneCrate n).get? place =
      if place = [n, "src", "lib.rs"] then some (.file "struct A;".toUTF8)
      else if place = [n, "src"] then some .folder
      else if place = [n, manifestName] then some (.file (manifestOf n).toUTF8)
      else if place = [n] then some .folder else none := by
  rw [loneCrate, get?_set (List.cons_ne_nil _ _), get?_set (List.cons_ne_nil _ _),
    get?_set (List.cons_ne_nil _ _), get?_set (List.cons_ne_nil _ _),
      show FileTree.empty.get? place = none from if_neg hp]

theorem sound_loneCrate (hn : PlainName n) : (loneCrate n).WellFormed ∧ (loneCrate n).Named := by
  have hempty : ∀ s rest, FileTree.empty.get? (s :: rest) = none := fun _ _ => rfl
  have hlib : PlainName "lib.rs" := ⟨by decide, by decide, by decide, by decide⟩
  have hcrate := sound_set [] n .folder ⟨wellFormed_empty, named_empty⟩ rfl (hempty n []) hn
  have hmanifest :=
    sound_set [n] manifestName (.file (manifestOf n).toUTF8) hcrate (by simp [get?_set])
    (by simp [get?_set, hempty]) plainName_manifest
  have hsources := sound_set [n] "src" .folder hmanifest (by simp [get?_set])
    (by simp [get?_set, hempty, manifestName]) plainName_src
  exact sound_set [n, "src"] "lib.rs" (.file "struct A;".toUTF8) hsources (by simp [get?_set])
    (by simp [get?_set, hempty, manifestName]) hlib

theorem content?_loneCrate (n : String) :
    (loneCrate n).content? ([] ++ sourceWay [n] [] "lib") = some "struct A;".toUTF8 := by
  rw [content?_eq_some]
  exact (get?_loneCrate n (List.cons_ne_nil _ _)).trans (if_pos rfl)

theorem crateFile_loneCrate (hs : ¬ Skipped n) (hd : packageName? (manifestOf n) = some n) :
    CrateFile (loneCrate n) [] [n] n [] "lib" where
  file := {
    file := ⟨_, content?_eq_some.mp (content?_loneCrate n)⟩
    entered := by
      have hsources : ¬ Skipped "src" := isEntered_iff.mp (by decide)
      intro folder hf
      rcases List.mem_pair.mp hf with rfl | rfl
      · exact hs
      · exact hsources
    named := ⟨"lib.rs", rfl, "lib", by decide, rfl⟩ }
  named := by
    have hc : (loneCrate n).content? ([] ++ [n] ++ [manifestName]) =
        some (manifestOf n).toUTF8 := by
      rw [content?_eq_some, get?_loneCrate _ (by simp)]
      simp [manifestName]
    rw [hc, declaredName?, Option.bind_some, Session.textOf_toUTF8]
    exact hd
  nearest := by
    intro inner hi hne
    obtain rfl : inner = ["src"] := by
      rcases List.prefix_cons_iff.mp hi with rfl | ⟨rest, rfl, hr⟩
      · exact (hne rfl).elim
      · rw [List.prefix_nil.mp hr]
    rw [content?, get?_loneCrate _ (by simp)]
    simp [manifestName]
  plain := by
    intro s hs
    obtain rfl := List.mem_singleton.mp hs
    decide

theorem holdsStruct_loneCrate (n : String) :
    HoldsStruct (loneCrate n) ([] ++ sourceWay [n] [] "lib") [] "A" := by
  obtain ⟨items, hi, hitems⟩ : ∃ items, Source.items? "struct A;" = some items ∧
      Source.isUnitStruct "A" items :=
    (Option.any_eq_true _ _).mp (by decide +kernel)
  obtain rfl := Source.isUnitStruct_iff.mp hitems
  exact ⟨_, _, _, [0], _, _, content?_loneCrate n, Session.textOf_toUTF8 _, hi,
    .here rfl, nofun⟩

theorem resolve_itemPath_of_hyphen :
    (loneCrate "my-backend").WellFormed ∧ (loneCrate "my-backend").Named ∧
      (loneCrate "my-backend").locate [] ⟨"."⟩ = .ok ([], .folder) ∧
      CrateFile (loneCrate "my-backend") [] ["my-backend"] "my-backend" [] "lib" ∧
        Text.LowerName "my-backend" ∧
      HoldsStruct (loneCrate "my-backend") ([] ++ sourceWay ["my-backend"] [] "lib") [] "A" ∧
      Text.Unsplit "my-backend" ∧
      ∃ r, (scan (m := Session) ⟨"."⟩).run.run ⟨loneCrate "my-backend", []⟩ =
        (.ok r, ⟨loneCrate "my-backend", []⟩) ∧
        Finds r ["my_backend", "A"] := by
  have hplain : PlainName "my-backend" := ⟨by decide, by decide, by decide, by decide⟩
  obtain ⟨hw, hn⟩ := sound_loneCrate hplain
  have hl : (loneCrate "my-backend").locate [] ⟨"."⟩ = .ok ([], .folder) := rfl
  have hf : CrateFile (loneCrate "my-backend") [] ["my-backend"] "my-backend" [] "lib" :=
    crateFile_loneCrate (isEntered_iff.mp (by decide)) (by decide +kernel)
  have hc : Text.LowerName "my-backend" := by decide +kernel
  have hh := holdsStruct_loneCrate "my-backend"
  have hu : Text.Unsplit "my-backend" := by decide +kernel
  have hname : Text.underscored "my-backend" = "my_backend" := by
    rw [Text.underscored, ← String.toList_inj, String.toList_map]
    decide
  obtain ⟨r, hr, hall⟩ := resolve_itemPath_iff (w := ⟨loneCrate "my-backend", []⟩) hw hn hl
  obtain ⟨-, -, hfound, -⟩ := hall _ _ _ _ _ _ hf hc hh
  have hpath := hfound hu
  rw [hname] at hpath
  exact ⟨hw, hn, hl, hf, hc, hh, hu, r, hr, hpath⟩

/-- A struct is not found by its path when a digit stands between the letters of the name of its
crate. -/
theorem resolve_itemPath_misses_beside_digit :
    (loneCrate "dto2ts").WellFormed ∧ (loneCrate "dto2ts").Named ∧
      (loneCrate "dto2ts").locate [] ⟨"."⟩ = .ok ([], .folder) ∧
      CrateFile (loneCrate "dto2ts") [] ["dto2ts"] "dto2ts" [] "lib" ∧ Text.LowerName "dto2ts" ∧
      HoldsStruct (loneCrate "dto2ts") ([] ++ sourceWay ["dto2ts"] [] "lib") [] "A" ∧
      Text.underscored "dto2ts" = "dto2ts" ∧
      ∃ r, (scan (m := Session) ⟨"."⟩).run.run ⟨loneCrate "dto2ts", []⟩ =
        (.ok r, ⟨loneCrate "dto2ts", []⟩) ∧
        r.known = ["dto_2_ts.A"] ∧
          r.resolve "dto2ts::A" = .error (.classNotFound "dto2ts::A") := by
  have hplain : PlainName "dto2ts" := ⟨by decide, by decide, by decide, by decide⟩
  obtain ⟨hw, hn⟩ := sound_loneCrate hplain
  have hl : (loneCrate "dto2ts").locate [] ⟨"."⟩ = .ok ([], .folder) := rfl
  have hf : CrateFile (loneCrate "dto2ts") [] ["dto2ts"] "dto2ts" [] "lib" :=
    crateFile_loneCrate (isEntered_iff.mp (by decide)) (by decide +kernel)
  have hname : Text.underscored "dto2ts" = "dto2ts" := by
    rw [Text.underscored, ← String.toList_inj, String.toList_map]
    decide
  have hrun :=
    run_scan (w := ⟨loneCrate "dto2ts", []⟩) ⟨hw, hn, Workspace.opens_of_locate hl⟩
  have hknown : ((scan (m := Session) ⟨"."⟩).run.run
      ⟨loneCrate "dto2ts", []⟩).1.toOption.map (fun r => (r.known, r.resolve "dto2ts::A")) =
        some (["dto_2_ts.A"], .error (.classNotFound "dto2ts::A")) := by
    decide +kernel
  rw [hrun] at hknown
  obtain ⟨hk, hr⟩ := Prod.ext_iff.mp (Option.some.inj hknown)
  exact ⟨hw, hn, hl, hf, by decide +kernel, holdsStruct_loneCrate "dto2ts", hname,
    _, hrun, hk, hr⟩

end Scan
end ClassExport
