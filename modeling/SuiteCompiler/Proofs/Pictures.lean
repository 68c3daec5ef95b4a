/-
  SuiteCompiler/Proofs/Pictures.lean
  ==================================
  What pictures take from a text.

  Markup is made of brackets and backslashes, and the code of a picture of two colons.
  A text is weighed by these signs (`weight`), a sign of markup like two colons, so
  that whatever is read as markup or as a code takes at least the weight of two colons
  away.  For codes this is shown here: no line of the table of pictures has a sign in it
  (`signWeight_of_mem_emojiLines`), so the colons of a code are gone for good when a
  picture takes its place (`replace_cases`).
-/
import SuiteCompiler.Console.Emoji
import SuiteCompiler.Proofs.Lines
import SuiteCompiler.Template.Schema

namespace SuiteCompiler.Console

/-! ### Weights -/

/-- What a character weighs: a sign of markup twice as much as a colon, any other one nothing. -/
def signWeight (c : Char) : Nat := if c = '[' || c = '\\' then 2 else if c = ':' then 1 else 0

/-- What a text weighs. -/
def weight : List Char → Nat
  | [] => 0
  | c :: cs => signWeight c + weight cs

@[simp] theorem weight_nil : weight [] = 0 := rfl

@[simp] theorem weight_cons (c : Char) (cs : List Char) :
    weight (c :: cs) = signWeight c + weight cs := rfl

@[simp] theorem weight_append (as bs : List Char) : weight (as ++ bs) = weight as + weight bs := by
  induction as with
  | nil => simp
  | cons c as ih => simp [ih, Nat.add_assoc]

theorem weight_eq_zero {cs : List Char} (h : ∀ c ∈ cs, signWeight c = 0) : weight cs = 0 := by
  induction cs with
  | nil => rfl
  | cons c cs ih =>
    obtain ⟨hc, hcs⟩ := List.forall_mem_cons.1 h
    rw [weight_cons, hc, ih hcs]

theorem weight_le_of_infix {cs text : List Char} (h : cs <:+: text) : weight cs ≤ weight text := by
  obtain ⟨before, after, rfl⟩ := h
  simp only [weight_append]
  omega

namespace Emoji

/-! ### The table -/

theorem cons_eq_map_ofList {cs : List Char} {lines : List String} {texts : List (List Char)}
    (h : lines = texts.map String.ofList) :
    String.ofList cs :: lines = (cs :: texts).map String.ofList := by
  rw [List.map_cons, h]

theorem signWeight_of_eq_map_ofList {lines : List String} {texts : List (List Char)}
    (h : lines = texts.map String.ofList)
    (hall : texts.all (fun cs => cs.all fun c => signWeight c == 0) = true) :
    ∀ line ∈ lines, ∀ c ∈ line.toList, signWeight c = 0 := by
  subst h
  intro line hline c hc
  obtain ⟨cs, hcs, rfl⟩ := List.mem_map.1 hline
  rw [String.toList_ofList] at hc
  simpa using List.all_eq_true.1 (List.all_eq_true.1 hall cs hcs) c hc

set_option maxRecDepth 100000 in
theorem signWeight_of_mem_emojiLines :
    ∀ line ∈ emojiLines, ∀ c ∈ line.toList, signWeight c = 0 := by
  unfold emojiLines
  dsimp only
  -- the characters of a literal are at hand, while those of a text have to be decoded
  apply signWeight_of_eq_map_ofList
  · repeat apply cons_eq_map_ofList
    exact List.map_nil.symm
  · decide +kernel

theorem mem_of_mem_pairUp {pieces : List String} {entry : String × String}
    (h : entry ∈ pairUp pieces) : entry.2 ∈ pieces := by
  fun_induction pairUp pieces with
  | case1 name picture rest ih =>
    rcases List.mem_cons.1 h with rfl | h
    · exact List.mem_cons_of_mem name List.mem_cons_self
    · exact List.mem_cons_of_mem name (List.mem_cons_of_mem picture (ih h))
  | case2 => cases h

/-- No picture has a sign. -/
theorem signWeight_of_mem_pictures {entry : String × String} (h : entry ∈ pictures) :
    ∀ c ∈ entry.2.toList, signWeight c = 0 := by
  intro c hc
  obtain ⟨line, hline, hpiece⟩ := List.mem_flatMap.1 (mem_of_mem_pairUp h)
  obtain ⟨piece, hpiece, hentry⟩ := List.mem_map.1 hpiece
  rw [← hentry, String.toList_ofList] at hc
  exact signWeight_of_mem_emojiLines line hline c (Text.mem_of_mem_splitAt hpiece hc)

/-! ### Codes -/

theorem weight_splitVariant (code : List Char) : weight (splitVariant code).2 = 0 := by
  unfold splitVariant
  split
  · next ending mark hfound =>
    have hmem := List.mem_of_find?_eq_some hfound
    simp only [variants, List.mem_cons, Prod.mk.injEq, List.not_mem_nil, or_false] at hmem
    rcases hmem with ⟨-, rfl⟩ | ⟨-, rfl⟩
    · rfl
    · rfl
  · rfl

theorem weight_of_picture? {code picture : List Char} (h : picture? code = some picture) :
    weight picture = 0 := by
  have hmarks := weight_splitVariant code
  unfold picture? at h
  cases hsplit : splitVariant code with
  | mk name marks =>
    rw [hsplit] at h hmarks
    obtain ⟨found, hfound, rfl⟩ := Option.map_eq_some_iff.1 h
    rw [weight_append, hmarks, weight_eq_zero (signWeight_of_mem_pictures (mem_of_lookup hfound))]

/-- What stands for a code is the code, or it weighs nothing. -/
theorem decode_cases (code : List Char) :
    decode code = ':' :: (code ++ [':']) ∨ weight (decode code) = 0 := by
  unfold decode
  cases hpicture : picture? code with
  | none => exact Or.inl rfl
  | some picture => exact Or.inr (weight_of_picture? hpicture)

/-- The text of which a code has been read since its first colon. -/
def unread (opened : Option (List Char)) (cs : List Char) : List Char :=
  match opened with
  | none => cs
  | some code => ':' :: (code.reverse ++ cs)

theorem replaceFrom_cases (opened : Option (List Char)) (cs : List Char) :
    replaceFrom opened cs = unread opened cs ∨
      weight (replaceFrom opened cs) + 2 ≤ weight (unread opened cs) := by
  have hcolon : signWeight ':' = 1 := rfl
  induction cs generalizing opened with
  | nil =>
    cases opened with
    | none => exact Or.inl rfl
    | some code => exact Or.inl (by simp [replaceFrom, unread])
  | cons c cs ih =>
    cases opened with
    | none =>
      rw [replaceFrom]
      by_cases hc : c = ':'
      · subst hc
        rw [if_pos rfl]
        exact ih (some [])
      · rw [if_neg hc]
        rcases ih none with hsame | hless
        · exact Or.inl (by rw [hsame]; rfl)
        · refine Or.inr ?_
          simp only [unread, weight_cons] at hless ⊢
          omega
    | some code =>
      rw [replaceFrom]
      by_cases hc : c = ':'
      · subst hc
        rw [if_pos rfl]
        -- the code is complete: it stays, or a picture takes the place of it and its colons
        have hwhole : unread (some code) (':' :: cs) = ':' :: (code.reverse ++ [':']) ++ cs := by
          simp [unread]
        have hrest : weight (replaceFrom none cs) ≤ weight cs := by
          rcases ih none with hsame | hless
          · exact Nat.le_of_eq (congrArg weight hsame)
          · exact Nat.le_of_add_right_le hless
        rw [hwhole]
        rcases decode_cases code.reverse with hcode | hpicture
        · rcases ih none with hsame | hless
          · exact Or.inl (by rw [hcode, hsame]; rfl)
          · refine Or.inr ?_
            rw [hcode, weight_append, weight_append]
            exact Nat.add_le_add_left hless _
        · refine Or.inr ?_
          simp only [weight_append, weight_cons, weight_nil, hpicture, hcolon]
          omega
      · rw [if_neg hc]
        by_cases hblank : Text.isBlank c
        · rw [if_pos hblank]
          rcases ih none with hsame | hless
          · exact Or.inl (by rw [hsame]; rfl)
          · refine Or.inr ?_
            simp only [unread, weight_append, weight_cons] at hless ⊢
            omega
        · rw [if_neg hblank]
          have hwhole : unread (some code) (c :: cs) = unread (some (c :: code)) cs := by
            simp [unread]
          rw [hwhole]
          exact ih (some (c :: code))

/-- A text in which no picture takes the place of a code stays as it is, and any other becomes
lighter by two colons at least. -/
theorem replace_cases (cs : List Char) :
    replace cs = cs ∨ weight (replace cs) + 2 ≤ weight cs := replaceFrom_cases none cs

theorem weight_replace_le (cs : List Char) : weight (replace cs) ≤ weight cs := by
  rcases replace_cases cs with hsame | hless
  · exact Nat.le_of_eq (congrArg weight hsame)
  · exact Nat.le_of_add_right_le hless

end Emoji

end SuiteCompiler.Console
