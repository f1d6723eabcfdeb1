import ClassExport.Json.Printer
import ClassExport.Json.Reader

/-! Printed JSON is read as the value that was printed. -/
namespace ClassExport.Json

variable {c : Char} {cs rest : List Char} {us : List Unit16} {n : Nat}

/-! Strings. -/

def isSimple (c : Char) : Bool := c = '\x08' || c = '\x0c' || c = '\n' || c = '\r' || c = '\t'

/-- What an escaped character is read as. -/
def unitOf (c : Char) : Unit16 := if c.toNat < 0x20 && !isSimple c then .unit c.toNat else .char c

theorem hexDigit?_hexChar (h : n < 16) : Text.hexDigit? (hexChar n) = some n := by
  have hall : ∀ k : Fin 16, Text.hexDigit? (hexChar k) = some k.val := by decide
  exact hall ⟨n, h⟩

theorem hexUnit?_hexChar (h : n < 0x20) :
    hexUnit? '0' '0' (hexChar (n / 16)) (hexChar (n % 16)) = some n := by
  have h0 : Text.hexDigit? '0' = some 0 := rfl
  rw [hexUnit?, h0, hexDigit?_hexChar (by omega), hexDigit?_hexChar (by omega)]
  simp only [Option.bind_eq_bind, Option.bind_some, Option.pure_def, Option.some.injEq]
  omega

theorem stringUnits_short {e : Char} (hu : e ≠ 'u') (he : simpleEscape? e = some c) :
    stringUnits ('\\' :: e :: cs) = (.char c :: (stringUnits cs).1, (stringUnits cs).2) := by
  rw [stringUnits, he]
  · exact fun _ _ _ _ _ hu' _ => hu hu'
  · exact hu

theorem stringUnits_hex (h : n < 0x20) :
    stringUnits ('\\' :: 'u' :: '0' :: '0' :: hexChar (n / 16) :: hexChar (n % 16) :: cs) =
      (.unit n :: (stringUnits cs).1, (stringUnits cs).2) := by
  rw [stringUnits, hexUnit?_hexChar h]

theorem stringUnits_plain (hq : c ≠ '"') (hb : c ≠ '\\') (hc : ¬ c.toNat < 0x20) :
    stringUnits (c :: cs) = (.char c :: (stringUnits cs).1, (stringUnits cs).2) := by
  rw [stringUnits, if_neg hc]
  · exact hq
  · exact fun h _ => hb h
  · exact fun _ _ _ _ _ h _ => hb h
  · exact fun _ h _ => hb h
  · exact fun _ _ h _ => hb h

theorem stringUnits_escapeChar (c : Char) (cs : List Char) :
    stringUnits (escapeChar c ++ cs) = (unitOf c :: (stringUnits cs).1, (stringUnits cs).2) := by
  rw [escapeChar]
  -- the seven characters that have a letter or sign of their own
  iterate 7
    split
    · rename_i h
      subst h
      exact stringUnits_short (by decide) rfl
  rename_i h1 h2 h3 h4 h5 h6 h7
  split
  · rename_i hc
    have hs : isSimple c = false := by simp [isSimple, h3, h4, h5, h6, h7]
    rw [unitOf, hs]
    simpa [hc] using stringUnits_hex hc
  · rename_i hc
    rw [unitOf, if_neg (by simp [hc])]
    exact stringUnits_plain h1 h2 hc

theorem stringUnits_flatMap (cs rest : List Char) :
    stringUnits (cs.flatMap escapeChar ++ '"' :: rest) = (cs.map unitOf, .ok rest) := by
  induction cs with
  | nil => rfl
  | cons c cs ih =>
    rw [List.flatMap_cons, List.append_assoc, stringUnits_escapeChar, ih, List.map_cons]

/-- A unit for a control character is half of no pair. -/
theorem unitChars?_unitOf (c : Char) (us : List Unit16) :
    unitChars? true (unitOf c :: us) = (c :: ·) <$> unitChars? true us := by
  rw [unitOf]
  split
  · rename_i h
    rw [Bool.and_eq_true, decide_eq_true_iff] at h
    have hl : isLeading c.toNat = false := by simp [isLeading]; omega
    have ht : isTrailing c.toNat = false := by simp [isTrailing]; omega
    cases us with
    | nil => simp [unitChars?, hl, ht]
    | cons u us => cases u <;> simp [unitChars?, hl, ht]
  · rw [unitChars?]

theorem unitChars?_map (cs : List Char) : unitChars? true (cs.map unitOf) = some cs := by
  induction cs with
  | nil => rfl
  | cons c cs ih => rw [List.map_cons, unitChars?_unitOf, ih]; rfl

theorem readString_quote (s : String) (rest : List Char) :
    readString (s.toList.flatMap escapeChar ++ '"' :: rest) = (.string s, some rest) := by
  rw [readString, stringUnits_flatMap]
  dsimp only
  rw [unitChars?_map]
  simp

/-! Values. -/

/-- Values without numbers and faults, the keys being strings. -/
inductive Printable : Json → Prop where
  | null : Printable .null
  | bool (b : Bool) : Printable (.bool b)
  | string (s : String) : Printable (.string s)
  | array {items : List Json} (h : ∀ j ∈ items, Printable j) : Printable (.array items none)
  | object {members : List (Json × Json)} (hk : ∀ m ∈ members, ∃ k, m.1 = .string k)
      (hv : ∀ m ∈ members, Printable m.2) : Printable (.object members)

variable {j k v : Json} {js : List Json} {ms : List (Json × Json)} {d d' fuel : Nat}

theorem readWord_append (value : Json) (word rest : List Char) :
    readWord value word (word ++ rest) = (value, some rest) := by
  induction word with
  | nil => rfl
  | cons c word ih => rw [List.cons_append, readWord, if_pos rfl, ih]

theorem dropWhile_newLine (d : Nat) (cs : List Char) :
    (newLine d ++ cs).dropWhile isSpace = cs.dropWhile isSpace := by
  refine List.dropWhile_append_of_pos fun c hc => ?_
  obtain rfl | hc := List.mem_cons.mp hc
  · rfl
  · rw [List.eq_of_mem_replicate hc]
    rfl

theorem readValue_newLine (fuel d : Nat) (cs : List Char) :
    readValue fuel (newLine d ++ cs) = readValue fuel cs := by
  cases fuel with
  | zero => rfl
  | succ fuel => rw [readValue, readValue, dropWhile_newLine]

theorem dropWhile_cons (h : isSpace c = false) (cs : List Char) :
    (c :: cs).dropWhile isSpace = c :: cs :=
  List.dropWhile_cons_of_neg (by simp [h])

theorem readValue_space (h : isSpace c = true) : readValue fuel (c :: cs) = readValue fuel cs := by
  cases fuel with
  | zero => rfl
  | succ fuel => rw [readValue, readValue, List.dropWhile_cons_of_pos h]

/-! One step of reading a list or a record. -/

section

variable {after : List Char} {value : Json} {tail : Option Fault} {more : Option (List Char)}

theorem readValue_items (hc : (cs.dropWhile isSpace).head? ≠ some ']')
    (hi : readItems fuel cs = (js, tail, more)) :
    readValue (fuel + 1) ('[' :: cs) = (.array js tail, more) := by
  have hd : ('[' :: cs).dropWhile isSpace = '[' :: cs := dropWhile_cons rfl cs
  simp only [readValue, hd, hi]
  split
  · rename_i he
    rw [he] at hc
    exact (hc rfl).elim
  · rfl

theorem readValue_members (hc : (cs.dropWhile isSpace).head? ≠ some '\x7d')
    (hm : readMembers fuel cs = (ms, more)) :
    readValue (fuel + 1) ('\x7b' :: cs) = (.object ms, more) := by
  have hd : ('\x7b' :: cs).dropWhile isSpace = '\x7b' :: cs := dropWhile_cons rfl cs
  simp only [readValue, hd, hm]
  split
  · rename_i he
    rw [he] at hc
    exact (hc rfl).elim
  · rfl

theorem readItems_last (hv : readValue fuel cs = (value, some rest))
    (hr : rest.dropWhile isSpace = ']' :: after) :
    readItems (fuel + 1) cs = ([value], none, some after) := by
  simp only [readItems, hv, hr]

theorem readItems_more (hv : readValue fuel cs = (value, some rest))
    (hr : rest.dropWhile isSpace = ',' :: after) (hi : readItems fuel after = (js, tail, more)) :
    readItems (fuel + 1) cs = (value :: js, tail, more) := by
  simp only [readItems, hv, hr, hi]

variable {key : Json} {named colon body : List Char} (hk : cs.dropWhile isSpace = '"' :: named)
  (hs : readString named = (key, some colon)) (hc : colon.dropWhile isSpace = ':' :: body)
  (hv : readValue fuel body = (value, some rest))
include hk hs hc hv

theorem readMembers_last (hr : rest.dropWhile isSpace = '\x7d' :: after) :
    readMembers (fuel + 1) cs = ([(key, value)], some after) := by
  simp only [readMembers, hk, hs, hc, hv, hr]

theorem readMembers_more (hr : rest.dropWhile isSpace = ',' :: after)
    (hm : readMembers fuel after = (ms, more)) :
    readMembers (fuel + 1) cs = ((key, value) :: ms, more) := by
  simp only [readMembers, hk, hs, hc, hv, hr, hm]

end

theorem exists_print_eq_cons (hj : Printable j) (d : Nat) :
    ∃ c cs, print d j = c :: cs ∧ isSpace c = false ∧ c ≠ ']' := by
  cases hj with
  | null => exact ⟨'n', "ull".toList, by rw [print]; rfl, by decide, by decide⟩
  | bool b => cases b <;> exact ⟨_, _, by rw [print]; rfl, by decide, by decide⟩
  | string s => exact ⟨'"', _, by rw [print, quote]; rfl, by decide, by decide⟩
  | @array items h =>
    cases items with
    | nil => exact ⟨'[', [']'], by rw [print], by decide, by decide⟩
    | cons j js => exact ⟨'[', _, by rw [print]; rfl, by decide, by decide⟩
  | @object members hk hv =>
    cases members with
    | nil => exact ⟨'\x7b', ['\x7d'], by rw [print], by decide, by decide⟩
    | cons m ms => exact ⟨'\x7b', _, by rw [print]; rfl, by decide, by decide⟩

/-- What is read with fuel twice the length of the printed text. -/
structure Reads (fuel : Nat) : Prop where
  value : ∀ {j d} rest, Printable j → 2 * (print d j).length ≤ fuel →
    readValue fuel (print d j ++ rest) = (j, some rest)
  items : ∀ {j js d} d' rest, (∀ i ∈ j :: js, Printable i) →
    2 * ((print d j).length + (printItems d js).length) < fuel →
    readItems fuel (newLine d ++ (print d j ++ (printItems d js ++ (newLine d' ++ ']' :: rest)))) =
      (j :: js, none, some rest)
  members : ∀ {k v ms d} d' rest, (∀ m ∈ (k, v) :: ms, ∃ k, m.1 = .string k) →
    (∀ m ∈ (k, v) :: ms, Printable m.2) →
    2 * ((print d k).length + (print d v).length + (printMembers d ms).length) < fuel →
    readMembers fuel (newLine d ++ (print d k ++ (':' :: ' ' :: (print d v ++
      (printMembers d ms ++ (newLine d' ++ '\x7d' :: rest)))))) = ((k, v) :: ms, some rest)

theorem reads_zero : Reads 0 where
  value rest hj h := by
    obtain ⟨c, cs, he, -, -⟩ := exists_print_eq_cons hj _
    rw [he, List.length_cons] at h
    omega
  items _ _ _ h := by omega
  members _ _ _ _ h := by omega

theorem Reads.value_succ (ih : Reads fuel) (hj : Printable j)
    (h : 2 * (print d j).length ≤ fuel + 1) (rest : List Char) :
    readValue (fuel + 1) (print d j ++ rest) = (j, some rest) := by
  cases hj with
  | null =>
    rw [print]
    change readValue (fuel + 1) ('n' :: ("ull".toList ++ rest)) = _
    rw [readValue, dropWhile_cons rfl]
    exact readWord_append _ _ _
  | bool b =>
    cases b with
    | true =>
      rw [print]
      change readValue (fuel + 1) ('t' :: ("rue".toList ++ rest)) = _
      rw [readValue, dropWhile_cons rfl]
      exact readWord_append _ _ _
    | false =>
      rw [print]
      change readValue (fuel + 1) ('f' :: ("alse".toList ++ rest)) = _
      rw [readValue, dropWhile_cons rfl]
      exact readWord_append _ _ _
  | string s =>
    rw [print, quote, List.append_assoc, List.cons_append, readValue, dropWhile_cons rfl]
    exact readString_quote s rest
  | @array items hi =>
    cases items with
    | nil =>
      rw [print, List.cons_append, readValue, dropWhile_cons rfl]
      rfl
    | cons j js =>
      obtain ⟨c, cs, hc, hs, hb⟩ := exists_print_eq_cons (hi j List.mem_cons_self) (d + 1)
      rw [print] at h ⊢
      simp only [List.cons_append, List.append_assoc, List.nil_append, List.length_append,
        List.length_cons] at h ⊢
      refine readValue_items ?_ (ih.items d rest hi (by omega))
      rw [dropWhile_newLine, hc, List.cons_append, dropWhile_cons hs]
      simpa using hb
  | @object members hk hv =>
    cases members with
    | nil =>
      rw [print, List.cons_append, readValue, dropWhile_cons rfl]
      rfl
    | cons m ms =>
      obtain ⟨⟨key, hkey⟩, -⟩ := List.forall_mem_cons.mp hk
      obtain ⟨k, v⟩ := m
      rw [print] at h ⊢
      simp only [List.cons_append, List.append_assoc, List.nil_append, List.length_append,
        List.length_cons] at h ⊢
      refine readValue_members ?_ (ih.members d rest hk hv (by omega))
      obtain rfl : k = .string key := hkey
      rw [dropWhile_newLine, print, quote, List.append_assoc, List.cons_append, dropWhile_cons rfl]
      simp

theorem Reads.items_succ (ih : Reads fuel) (hj : ∀ i ∈ j :: js, Printable i)
    (h : 2 * ((print d j).length + (printItems d js).length) < fuel + 1) (d' : Nat)
    (rest : List Char) :
    readItems (fuel + 1) (newLine d ++
      (print d j ++ (printItems d js ++ (newLine d' ++ ']' :: rest)))) =
      (j :: js, none, some rest) := by
  rw [List.forall_mem_cons] at hj
  have hv : readValue fuel (newLine d ++
    (print d j ++ (printItems d js ++ (newLine d' ++ ']' :: rest)))) =
      (j, some (printItems d js ++ (newLine d' ++ ']' :: rest))) := by
    rw [readValue_newLine]
    exact ih.value _ hj.1 (by omega)
  cases js with
  | nil =>
    rw [printItems, List.nil_append] at hv ⊢
    exact readItems_last hv (by rw [dropWhile_newLine, dropWhile_cons rfl])
  | cons j js =>
    rw [printItems] at h hv ⊢
    simp only [List.cons_append, List.append_assoc, List.length_append,
      List.length_cons] at h hv ⊢
    exact readItems_more hv (dropWhile_cons rfl _) (ih.items d' rest hj.2 (by omega))

theorem Reads.members_succ (ih : Reads fuel) (hk : ∀ m ∈ (k, v) :: ms, ∃ k, m.1 = .string k)
    (hv : ∀ m ∈ (k, v) :: ms, Printable m.2)
    (h : 2 * ((print d k).length + (print d v).length + (printMembers d ms).length) < fuel + 1)
    (d' : Nat) (rest : List Char) :
    readMembers (fuel + 1) (newLine d ++ (print d k ++ (':' :: ' ' :: (print d v ++
      (printMembers d ms ++ (newLine d' ++ '\x7d' :: rest)))))) = ((k, v) :: ms, some rest) := by
  rw [List.forall_mem_cons] at hk hv
  obtain ⟨⟨key, hkey⟩, hk⟩ := hk
  obtain rfl : k = .string key := hkey
  have hread : readValue fuel
    (' ' :: (print d v ++ (printMembers d ms ++ (newLine d' ++ '\x7d' :: rest)))) =
      (v, some (printMembers d ms ++ (newLine d' ++ '\x7d' :: rest))) := by
    rw [readValue_space rfl]
    exact ih.value _ hv.1 (by omega)
  have hs : (newLine d ++ (print d (.string key) ++ (':' :: ' ' :: (print d v ++
      (printMembers d ms ++ (newLine d' ++ '\x7d' :: rest)))))).dropWhile isSpace = '"' ::
        (key.toList.flatMap escapeChar ++ '"' :: (':' :: ' ' :: (print d v ++
          (printMembers d ms ++ (newLine d' ++ '\x7d' :: rest))))) := by
    rw [dropWhile_newLine, print, quote, List.append_assoc, List.cons_append, dropWhile_cons rfl]
    rfl
  cases ms with
  | nil =>
    rw [printMembers, List.nil_append] at hs hread ⊢
    exact readMembers_last hs (readString_quote _ _) (dropWhile_cons rfl _) hread
      (by rw [dropWhile_newLine, dropWhile_cons rfl])
  | cons m ms =>
    obtain ⟨k, v'⟩ := m
    rw [printMembers] at h hs hread ⊢
    simp only [List.cons_append, List.append_assoc, List.nil_append,
      List.length_append, List.length_cons]
      at h hs hread ⊢
    exact readMembers_more hs (readString_quote _ _) (dropWhile_cons rfl _) hread
      (dropWhile_cons rfl _)
      (ih.members d' rest hk hv.2 (by omega))

theorem reads (fuel : Nat) : Reads fuel := by
  induction fuel with
  | zero => exact reads_zero
  | succ fuel ih =>
    exact ⟨fun rest hj h => ih.value_succ hj h rest, fun d' rest hj h =>
      ih.items_succ hj h d' rest, fun d' rest hk hv h => ih.members_succ hk hv h d' rest⟩

/-- A printed value is read as it was, whatever text follows. -/
theorem readValue_print (hj : Printable j) (d : Nat) (h : 2 * (print d j).length ≤ fuel)
    (rest : List Char) :
    readValue fuel (print d j ++ rest) = (j, some rest) := (reads fuel).value rest hj h

/-- Reading a printed value is reading the value. -/
theorem ofText_text {α : Type} (read : Json → Except Fault α) (hj : Printable j) :
    ofText read j.text = read j := by
  have hl : j.text.toList = print 0 j := by rw [text, String.toList_ofList]
  have hr : readValue (2 * (print 0 j).length + 2) (print 0 j) = (j, some []) := by
    simpa using readValue_print hj 0 (Nat.le_add_right _ 2) []
  rw [ofText, hl, hr]
  dsimp only
  cases read j <;> rfl

end ClassExport.Json
