import ClassExport.Proofs.Declarations
import ClassExport.Proofs.Readback

/-!
An export of public fields alone leaves out lines of the full one and changes none; which lines go
can be told from the source.
-/
namespace ClassExport

variable {l : Class} {f : Field} {settings : EmitSettings}

/-- The field has the modifier `public`, no other one, and no bit that stands for none. -/
def Field.onlyPublic (f : Field) : Bool := f.modifiers = .single .publicAccess

namespace Class

/-- The lines before the fields. -/
def opening (l : Class) (settings : EmitSettings) : List String :=
  (if settings.wrapInNamespace then ["namespace " ++ settings.namespaceOf l ++ " \x7b"] else []) ++
    ["export class " ++ l.name ++ " \x7b"]

/-- The lines after the fields. -/
def closing (settings : EmitSettings) : List String :=
  "\x7d" :: if settings.wrapInNamespace then ["\x7d"] else []

theorem lines_eq (l : Class) (settings : EmitSettings) :
    l.lines settings = l.opening settings ++ (l.fields.filter settings.emits).map Field.line ++
      closing settings := by
  rw [lines, opening, closing]
  cases settings.wrapInNamespace with
  | true => simp
  | false => rfl

theorem lines_ne_nil (l : Class) (settings : EmitSettings) : l.lines settings ≠ [] := by
  intro hn
  rw [lines_eq, closing] at hn
  simp at hn

/-- The text of a class is that of its lines, each with a line feed. -/
theorem toList_render (l : Class) (settings : EmitSettings) :
    (l.render settings).toList = (l.lines settings).flatMap fun line => line.toList ++ ['\n'] :=
  Text.intercalate_concat (l.lines_ne_nil settings)

theorem filter_emits_all (fields : List Field) (settings : EmitSettings) :
    fields.filter { settings with includeNonPublic := true }.emits = fields :=
  List.filter_eq_self.mpr fun _ _ => rfl

theorem filter_emits_public (fields : List Field) (settings : EmitSettings) :
    fields.filter { settings with includeNonPublic := false }.emits =
      fields.filter Field.onlyPublic := by
  apply List.filter_congr
  intro f _
  rw [EmitSettings.emits, Bool.false_or]
  rfl

end Class

namespace Source

variable {items : List Item} {address : List Nat} {package text : String}
  {uses : List UseTree} {s : FieldSyntax} {body : StructBody}

/-- The fields that are written in the body of a struct that is a class. -/
def StructBody.written : StructBody → List FieldSyntax
  | .named fields => fields
  | _ => []

/-- A field is read as public just when it is written with `pub` and no restriction. -/
theorem ReadsField.onlyPublic_iff (h : ReadsField uses s f) :
    f.onlyPublic ↔ s.visibility = .everywhere := by
  rw [Field.onlyPublic, h.modifiers, decide_eq_true_iff]
  cases s.visibility <;> decide

theorem ReadsBody.written {fields : List Field} (h : ReadsBody uses body fields) :
    List.Forall₂ (fun s f => ReadsField uses s f ∧
      (f.onlyPublic ↔ s.visibility = .everywhere)) body.written fields := by
  cases h with
  | named hf => exact hf.imp fun s f hr => ⟨hr, hr.onlyPublic_iff⟩
  | unit => exact .nil

theorem exists_declaredAt {cs : List Class} (h : classes text package = .ok cs) (hl : l ∈ cs) :
    ∃ items address, items? text = some items ∧ DeclaredAt items package address l := by
  cases hi : items? text with
  | none =>
    rw [classes, hi] at h
    cases h
  | some items =>
    obtain rfl := Except.ok.inj (h.symm.trans (classes_eq_ok package hi))
    obtain ⟨address, hd⟩ := mem_classesOf_iff.mp hl
    exact ⟨items, address, rfl, hd⟩

end Source

/-- Without the fields that are not public, a class is written in the same lines as with them, in
the same order, less exactly the lines of the fields that have other modifiers than `public` alone.
In a class that is read from source these are the fields that are not written with a plain `pub`. -/
theorem lines_of_public_fields :
    (∀ (l : Class) (settings : EmitSettings), ∃ before after,
      l.lines { settings with includeNonPublic := true } = before ++
        l.fields.map Field.line ++ after ∧
      l.lines { settings with includeNonPublic := false } =
        before ++ (l.fields.filter Field.onlyPublic).map Field.line ++ after ∧
      (l.lines { settings with includeNonPublic := false }).Sublist
        (l.lines { settings with includeNonPublic := true }) ∧
      ∀ nonPublic, (l.render { settings with includeNonPublic := nonPublic }).toList =
        (l.lines { settings with includeNonPublic := nonPublic }).flatMap fun line =>
          line.toList ++ ['\n']) ∧
    ∀ text package cs, Source.classes text package = .ok cs → ∀ l ∈ cs,
      ∃ items address modules scope body, Source.items? text = some items ∧
        Source.StructAt items address modules scope l.name body ∧
        List.Forall₂ (fun s f => Source.ReadsField (Source.usesOf scope) s f ∧
          (f.onlyPublic ↔ s.visibility = .everywhere)) body.written l.fields := by
  constructor
  · intro l settings
    have hall := l.lines_eq { settings with includeNonPublic := true }
    have hpublic := l.lines_eq { settings with includeNonPublic := false }
    rw [Class.filter_emits_all] at hall
    rw [Class.filter_emits_public] at hpublic
    refine ⟨l.opening settings, Class.closing settings, hall, hpublic, ?_, fun _ =>
      l.toList_render _⟩
    rw [hall, hpublic]
    apply List.Sublist.append_right
    apply List.Sublist.append_left
    exact List.filter_sublist.map Field.line
  · intro text package cs h l hl
    obtain ⟨items, address, hi, hd⟩ := Source.exists_declaredAt h hl
    obtain ⟨modules, scope, body, hs, -, hb⟩ := hd
    exact ⟨items, address, modules, scope, body, hi, hs, hb.written⟩

/-- A struct with a field of each visibility. -/
def accountText : String := "struct A \x7b pub id: u8, pub(crate) key: String, open: bool \x7d"

/-- The class that the text declares. -/
def account : Class where
  name := "A"
  package := ""
  fields := [
    ⟨"id", "byte", none, false, .single .publicAccess⟩,
    ⟨"key", "String", none, false, .single .protectedAccess⟩,
    ⟨"open", "boolean", none, false, .single .privateAccess⟩]

theorem lines_of_public_fields_of_accountText :
    Source.classes accountText "" = .ok [account] ∧
    (∃ before after, account.lines {} = before ++ account.fields.map Field.line ++ after ∧
      account.lines { includeNonPublic := false } = before ++
        ["\tpublic id: number; // byte"] ++ after) ∧
    ∃ items address modules scope body, Source.items? accountText = some items ∧
      Source.StructAt items address modules scope "A" body ∧
      List.Forall₂ (fun s f => Source.ReadsField (Source.usesOf scope) s f ∧
        (f.onlyPublic ↔ s.visibility = .everywhere)) body.written account.fields := by
  have hread : (Source.classes accountText "").toOption = some [account] := by decide +kernel
  have h : Source.classes accountText "" = .ok [account] := by
    cases hc : Source.classes accountText "" with
    | error failure =>
      rw [hc] at hread
      cases hread
    | ok cs =>
      rw [hc] at hread
      exact congrArg Except.ok (Option.some.inj hread)
  have hlines : (account.fields.filter Field.onlyPublic).map Field.line =
      ["\tpublic id: number; // byte"] := by
    decide +kernel
  obtain ⟨before, after, hall, hpublic, -⟩ := lines_of_public_fields.1 account {}
  rw [hlines] at hpublic
  exact ⟨h, ⟨before, after, hall, hpublic⟩,
    lines_of_public_fields.2 accountText "" [account] h account (by simp)⟩

end ClassExport
