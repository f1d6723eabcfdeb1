import ClassExport.ClassName

/-! Tails of qualified names, said of texts instead of characters. -/
namespace ClassExport.ClassName

variable {n q t u : String}

/-- The qualified name is the tail, or ends in it after a dot. -/
def IsTail (t q : String) : Prop := q = t ∨ ∃ front, q = front ++ "." ++ t

/-- What is left of a name less one leading `crate` segment. -/
inductive Shortened : String → String → Prop where
  | crate (rest : String) : Shortened ("crate." ++ rest) rest
  | plain {n : String} (h : ∀ rest, n ≠ "crate." ++ rest) : Shortened n n

theorem endsWithTail_iff : endsWithTail q t = true ↔ IsTail t q := by
  have hs : ('.' :: t.toList) <:+ q.toList ↔ ∃ front, q = front ++ "." ++ t := by
    constructor
    · rintro ⟨front, hf⟩
      refine ⟨String.ofList front, String.toList_injective ?_⟩
      simp [← hf]
    · rintro ⟨front, rfl⟩
      exact ⟨front.toList, by simp⟩
  simp [endsWithTail, IsTail, hs]

instance : Decidable (IsTail t q) := decidable_of_iff _ endsWithTail_iff

theorem tail_crate (rest : String) : tail ("crate." ++ rest) = rest := by
  simp [tail]

theorem tail_plain (h : ∀ rest, n ≠ "crate." ++ rest) : tail n = n := by
  have hp : ¬ "crate.".toList <+: n.toList := by
    rintro ⟨rest, hr⟩
    refine h (String.ofList rest) (String.toList_injective ?_)
    simp [← hr]
  unfold tail
  rw [if_neg]
  simpa using hp

theorem shortened_iff : Shortened n t ↔ t = tail n := by
  constructor
  · intro h
    cases h with
    | crate rest => exact (tail_crate t).symm
    | plain h => exact (tail_plain h).symm
  · rintro rfl
    by_cases h : ∃ rest, n = "crate." ++ rest
    · obtain ⟨rest, rfl⟩ := h
      rw [tail_crate]
      exact .crate rest
    · have hn : ∀ rest, n ≠ "crate." ++ rest := fun rest he => h ⟨rest, he⟩
      rw [tail_plain hn]
      exact .plain hn

/-! Tails of tails. -/

theorem IsTail.refl (t : String) : IsTail t t := Or.inl rfl

theorem IsTail.trans (h : IsTail t u) (h' : IsTail u q) : IsTail t q := by
  rcases h with rfl | ⟨front, rfl⟩
  · exact h'
  · rcases h' with rfl | ⟨more, rfl⟩
    · exact Or.inr ⟨front, rfl⟩
    · refine Or.inr ⟨more ++ "." ++ front, ?_⟩
      simp [String.append_assoc]

theorem IsTail.length_le (h : IsTail t q) : t.length ≤ q.length := by
  rcases h with rfl | ⟨front, rfl⟩
  · exact Nat.le_refl _
  · simp only [String.length_append]
    omega

theorem IsTail.antisymm (h : IsTail t q) (h' : IsTail q t) : t = q := by
  rcases h with rfl | ⟨front, rfl⟩
  · rfl
  · have hl := h'.length_le
    have hd : ".".length = 1 := rfl
    simp only [String.length_append] at hl
    omega

theorem Shortened.isTail (h : Shortened n t) : IsTail t n := by
  cases h with
  | crate rest => exact Or.inr ⟨"crate", by simp⟩
  | plain _ => exact .refl _

/-- A second `crate` segment goes only with a name that begins with two. -/
theorem Shortened.eq_or_twice (h : Shortened n t) (h' : Shortened t u) :
    u = t ∨ t = "crate." ++ u ∧ n = "crate." ++ t := by
  cases h' with
  | plain _ => exact Or.inl rfl
  | crate rest =>
    refine Or.inr ⟨rfl, ?_⟩
    cases h with
    | crate rest => rfl
    | plain hn => exact absurd rfl (hn u)

/-- A name that goes on after a tail still ends in the tail when it has lost one `crate` segment. -/
theorem IsTail.of_shortened (h : IsTail t n) (hne : n ≠ t) (hs : Shortened n u) : IsTail t u := by
  cases hs with
  | plain _ => exact h
  | crate rest =>
    rcases h with he | ⟨front, he⟩
    · exact (hne he).elim
    · have hc : "crate".toList ++ '.' :: u.toList = front.toList ++ '.' :: t.toList := by
        simpa using congrArg String.toList he
      rcases List.append_eq_append_iff.mp hc with ⟨more, -, hm⟩ | ⟨more, hf, hm⟩
      · cases more with
        | nil => exact Or.inl (String.toList_injective (List.cons.inj hm).2)
        | cons c more =>
          have hu := (List.cons.inj hm).2
          exact Or.inr ⟨String.ofList more, String.toList_injective (by simpa using hu)⟩
      · cases more with
        | nil => exact Or.inl (String.toList_injective (List.cons.inj hm).2.symm)
        | cons c more =>
          -- the front part would end inside `crate`, before a dot
          have hd : '.' ∈ "crate".toList := by
            rw [hf, ← (List.cons.inj hm).1]
            simp
          exact absurd hd (by decide)

end ClassExport.ClassName
