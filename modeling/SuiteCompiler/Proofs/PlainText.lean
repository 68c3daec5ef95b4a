/-
  SuiteCompiler/Proofs/PlainText.lean
  ===================================
  Texts that mean nothing but themselves when they are printed.

  A message is taken apart into plain texts and tags.  A text without tags and without
  backslashes before brackets is one part, the text itself.  Any other text is heavier
  than all of its parts together, by a sign of markup at least (`parts_cases`): a tag
  takes its opening bracket away, or the backslash that makes it text.  Texts are told
  apart by weight and not by length, since a tab or a picture may make a text longer.
-/
import SuiteCompiler.Console.Message
import SuiteCompiler.Proofs.Pictures

namespace SuiteCompiler.Console

/-! ### Plain texts -/

/-- A text has a tag in square brackets, or what would be one without a backslash before it. -/
def HasTag (cs : List Char) : Prop :=
  ∃ before c body after, cs = before ++ '[' :: c :: (body ++ ']' :: after) ∧
    Markup.startsTag c = true ∧ '[' ∉ body

/-- A backslash stands before an opening bracket. -/
def HasEscape (cs : List Char) : Prop := ['\\', '['] <:+: cs

/-- A character that is printed as it is. -/
def IsShown (c : Char) : Prop := c ≠ '\t' ∧ Message.isDropped c = false

instance : DecidablePred IsShown := fun _ => inferInstanceAs (Decidable (_ ∧ _))

theorem forall_isShown_of_all {cs : List Char} (h : (cs.all fun c => decide (IsShown c)) = true) :
    ∀ c ∈ cs, IsShown c := by
  simpa using h

/-- Nothing in a text means anything else than itself when it is printed. -/
structure IsPlain (s : String) : Prop where
  noTag : ¬HasTag s.toList
  noEscape : ¬HasEscape s.toList
  noCode : Emoji.replace s.toList = s.toList
  shown : ∀ c ∈ s.toList, IsShown c

/-! ### Tags -/

namespace Markup

theorem startsTag_ne_close {c : Char} (h : startsTag c = true) : c ≠ ']' := by
  rintro rfl
  exact absurd h (by decide)

theorem startsTag_ne_open {c : Char} (h : startsTag c = true) : c ≠ '[' := by
  rintro rfl
  exact absurd h (by decide)

theorem upToBracket_eq_some {cs body after : List Char}
    (h : upToBracket cs = some (body, after)) : cs = body ++ ']' :: after ∧ '[' ∉ body := by
  induction cs generalizing body with
  | nil => cases h
  | cons c cs ih =>
    rw [upToBracket] at h
    split at h
    · next hclose =>
      cases h
      exact ⟨by rw [hclose]; rfl, List.not_mem_nil⟩
    split at h
    · cases h
    · next hopen =>
      obtain ⟨⟨found, rest⟩, hfound, hpair⟩ := Option.map_eq_some_iff.1 h
      cases hpair
      obtain ⟨rfl, hbody⟩ := ih hfound
      refine ⟨rfl, ?_⟩
      rw [List.mem_cons, not_or]
      exact ⟨fun e => hopen e.symm, hbody⟩

theorem exists_upToBracket {body after : List Char} (h : '[' ∉ body) :
    ∃ found, upToBracket (body ++ ']' :: after) = some found := by
  induction body with
  | nil => exact ⟨([], after), by simp [upToBracket]⟩
  | cons c body ih =>
    rw [List.mem_cons, not_or] at h
    obtain ⟨found, hfound⟩ := ih h.2
    rw [List.cons_append, upToBracket, hfound]
    by_cases hclose : c = ']'
    · exact ⟨_, if_pos hclose⟩
    · rw [if_neg hclose, if_neg fun e => h.1 e.symm]
      exact ⟨_, rfl⟩

theorem tagBody?_eq_some {cs body after : List Char} (h : tagBody? cs = some (body, after)) :
    cs = body ++ ']' :: after ∧ '[' ∉ body ∧ ∃ c rest, body = c :: rest ∧ startsTag c = true := by
  cases cs with
  | nil => cases h
  | cons c cs =>
    rw [tagBody?] at h
    split at h
    · next hstarts =>
      obtain ⟨htext, hbody⟩ := upToBracket_eq_some h
      refine ⟨htext, hbody, ?_⟩
      cases body with
      | nil => exact absurd (List.cons.inj htext).1 (startsTag_ne_close hstarts)
      | cons d body =>
        obtain ⟨rfl, -⟩ := List.cons.inj htext
        exact ⟨c, body, rfl, hstarts⟩
    · cases h

end Markup

open Markup

/-- A tag starts at the first character of a text or later. -/
theorem hasTag_cons_iff {c : Char} {cs : List Char} :
    HasTag (c :: cs) ↔ (c = '[' ∧ ∃ found, tagBody? cs = some found) ∨ HasTag cs := by
  constructor
  · rintro ⟨before, d, body, after, htext, hstarts, hbody⟩
    cases before with
    | nil =>
      obtain ⟨rfl, rfl⟩ := List.cons.inj htext
      left
      refine ⟨rfl, ?_⟩
      rw [tagBody?, if_pos hstarts]
      have hbody' : '[' ∉ d :: body := by
        rw [List.mem_cons, not_or]
        exact ⟨fun e => startsTag_ne_open hstarts e.symm, hbody⟩
      exact exists_upToBracket hbody'
    | cons e before =>
      obtain ⟨-, rfl⟩ := List.cons.inj htext
      exact Or.inr ⟨before, d, body, after, rfl, hstarts, hbody⟩
  · rintro (⟨rfl, ⟨body, after⟩, hfound⟩ | ⟨before, d, body, after, rfl, hstarts, hbody⟩)
    · obtain ⟨rfl, hbody, d, rest, rfl, hstarts⟩ := tagBody?_eq_some hfound
      rw [List.mem_cons, not_or] at hbody
      exact ⟨[], d, rest, after, rfl, hstarts, hbody.2⟩
    · exact ⟨c :: before, d, body, after, rfl, hstarts, hbody⟩

/-! ### What markup takes away -/

namespace Markup

/-- What a part of a message shows, before pictures are put in. -/
def Part.text : Part → List Char
  | .plain text => text
  | .tag _ => []

theorem weight_replicate_backslash (n : Nat) : weight (List.replicate n '\\') = 2 * n := by
  have hslash : signWeight '\\' = 2 := rfl
  induction n with
  | zero => rfl
  | succ n ih =>
    rw [List.replicate_succ, weight_cons, hslash, ih]
    omega

theorem weight_unescape_le (cs : List Char) : weight (unescape cs) ≤ weight cs := by
  fun_induction unescape cs with
  | case1 => exact Nat.le_refl _
  | case2 rest ih =>
    simp only [weight_cons]
    omega
  | case3 c rest _ ih =>
    simp only [weight_cons]
    omega

/-- A backslash is taken away wherever one stands before a bracket. -/
theorem unescape_cases (cs : List Char) :
    (¬HasEscape cs ∧ unescape cs = cs) ∨
      (HasEscape cs ∧ weight (unescape cs) + 2 ≤ weight cs) := by
  fun_induction unescape cs with
  | case1 => exact Or.inl ⟨by simp [HasEscape], rfl⟩
  | case2 rest ih =>
    refine Or.inr ⟨⟨[], rest, rfl⟩, ?_⟩
    have hle := weight_unescape_le rest
    have hslash : signWeight '\\' = 2 := rfl
    simp only [weight_cons, hslash]
    omega
  | case3 c rest hnot ih =>
    rcases ih with ⟨hescape, hsame⟩ | ⟨hescape, hless⟩
    · left
      refine ⟨fun hinfix => ?_, by rw [hsame]⟩
      rcases List.infix_cons_iff.1 hinfix with hprefix | hinfix
      · obtain ⟨after, hafter⟩ := hprefix
        obtain ⟨hc, hrest⟩ := List.cons.inj hafter
        exact hnot after hc.symm hrest.symm
      · exact hescape hinfix
    · refine Or.inr ⟨List.infix_cons hescape, ?_⟩
      simp only [weight_cons]
      omega

theorem weight_plainPart (text : List Char) :
    weight ((plainPart text).flatMap Part.text) = weight (unescape text) := by
  unfold plainPart
  split
  · next hempty => simp [List.isEmpty_iff.1 hempty, unescape]
  · simp [Part.text]

/-- A tag takes its opening bracket away, or the backslash that makes it text. -/
theorem weight_tagPart (before body after : List Char) (slashes : Nat) {rest : List Part}
    (hrest : weight (rest.flatMap Part.text) ≤ weight after) :
    weight ((plainPart before ++ plainPart (List.replicate (slashes / 2) '\\') ++
        tagPart slashes body :: rest).flatMap Part.text) + 2 ≤
      weight (before ++ (List.replicate slashes '\\' ++ '[' :: (body ++ ']' :: after))) := by
  have hbefore := weight_unescape_le before
  have hslashes := weight_unescape_le (List.replicate (slashes / 2) '\\')
  have hopen : signWeight '[' = 2 := rfl
  have hclose : signWeight ']' = 0 := rfl
  rw [weight_replicate_backslash] at hslashes
  have htag : 2 * (slashes / 2) + weight (tagPart slashes body).text ≤
      2 * slashes + weight body := by
    unfold tagPart
    split
    · simp only [Part.text, weight_cons, weight_append, weight_nil, hopen, hclose]
      omega
    · simp only [Part.text, weight_nil]
      omega
  simp only [List.flatMap_append, List.flatMap_cons, weight_append, weight_plainPart, weight_cons,
    weight_replicate_backslash, hopen, hclose]
  omega

/-- The parts of a text without tags are the text.  Any other text is heavier
than its parts. -/
theorem partsFrom_cases {before cs : List Char} {slashes fuel : Nat} (h : cs.length < fuel) :
    (¬HasTag cs ∧ partsFrom before slashes fuel cs =
        plainPart (before.reverse ++ (List.replicate slashes '\\' ++ cs))) ∨
      (HasTag cs ∧ weight ((partsFrom before slashes fuel cs).flatMap Part.text) + 2 ≤
        weight (before.reverse ++ (List.replicate slashes '\\' ++ cs))) := by
  induction fuel generalizing before slashes cs with
  | zero => omega
  | succ fuel ih =>
    cases cs with
    | nil =>
      left
      refine ⟨by simp [HasTag], ?_⟩
      rw [partsFrom, List.append_nil]
    | cons c rest =>
      rw [List.length_cons] at h
      rw [partsFrom, hasTag_cons_iff]
      by_cases hslash : c = '\\'
      · subst hslash
        have hwhole : List.replicate slashes '\\' ++ '\\' :: rest =
            List.replicate (slashes + 1) '\\' ++ rest := by
          rw [List.replicate_succ', List.append_assoc, List.singleton_append]
        rw [if_pos rfl, hwhole]
        simpa using @ih before rest (slashes + 1) (by omega)
      rw [if_neg hslash]
      cases hfound : (if c = '[' then tagBody? rest else none) with
      | some found =>
        obtain ⟨body, after⟩ := found
        obtain ⟨rfl, hbody⟩ : c = '[' ∧ tagBody? rest = some (body, after) := by
          simpa using hfound
        refine Or.inr ⟨Or.inl ⟨rfl, _, hbody⟩, ?_⟩
        obtain ⟨rfl, -, -⟩ := tagBody?_eq_some hbody
        refine weight_tagPart before.reverse body after slashes ?_
        rw [List.length_append, List.length_cons] at h
        rcases @ih [] after 0 (by omega) with ⟨-, hparts⟩ | ⟨-, hless⟩
        · rw [hparts, weight_plainPart]
          exact weight_unescape_le after
        · exact Nat.le_of_add_right_le hless
      | none =>
        have hwhole : before.reverse ++ (List.replicate slashes '\\' ++ c :: rest) =
            (c :: (List.replicate slashes '\\' ++ before)).reverse ++
              (List.replicate 0 '\\' ++ rest) := by
          simp
        have hnot : ¬(c = '[' ∧ ∃ found, tagBody? rest = some found) := by
          rintro ⟨rfl, found, hbody⟩
          rw [if_pos rfl, hbody] at hfound
          cases hfound
        rw [hwhole, or_iff_right hnot]
        exact ih (by omega)

/-- A text without tags and escapes is one part.  Any other text is heavier
than its parts, by a sign of markup at least. -/
theorem parts_cases (cs : List Char) :
    (¬HasTag cs ∧ ¬HasEscape cs ∧ parts cs = if cs.isEmpty then [] else [.plain cs]) ∨
      ((HasTag cs ∨ HasEscape cs) ∧ weight ((parts cs).flatMap Part.text) + 2 ≤ weight cs) := by
  rcases @partsFrom_cases [] cs 0 (cs.length + 1) (Nat.lt_succ_self _) with
    ⟨htag, hparts⟩ | ⟨htag, hless⟩
  · rcases unescape_cases cs with ⟨hescape, hsame⟩ | ⟨hescape, hless⟩
    · refine Or.inl ⟨htag, hescape, ?_⟩
      rw [parts, hparts]
      simp [plainPart, hsame]
    · refine Or.inr ⟨Or.inr hescape, ?_⟩
      rw [parts, hparts, weight_plainPart]
      exact hless
  · exact Or.inr ⟨Or.inl htag, hless⟩

theorem partsFrom_fuel {before cs : List Char} {slashes fuel fuel' : Nat} (h : cs.length < fuel)
    (h' : cs.length < fuel') :
    partsFrom before slashes fuel cs = partsFrom before slashes fuel' cs := by
  induction fuel generalizing before slashes cs fuel' with
  | zero => omega
  | succ fuel ih =>
    obtain ⟨fuel', rfl⟩ := Nat.exists_eq_succ_of_ne_zero (Nat.ne_zero_of_lt h')
    cases cs with
    | nil => rfl
    | cons c rest =>
      rw [List.length_cons] at h h'
      rw [partsFrom, partsFrom]
      split
      · exact ih (by omega) (by omega)
      · split
        · next body after hfound =>
          obtain ⟨-, hbody⟩ : c = '[' ∧ tagBody? rest = some (body, after) := by simpa using hfound
          obtain ⟨rfl, -, -⟩ := tagBody?_eq_some hbody
          rw [List.length_append, List.length_cons] at h h'
          rw [@ih [] after 0 fuel' (by omega) (by omega)]
        · exact ih (by omega) (by omega)

theorem partsFrom_append {text : List Char} (h : ∀ c ∈ text, c ≠ '[' ∧ c ≠ '\\')
    (before cs : List Char) (fuel : Nat) :
    partsFrom before 0 (fuel + text.length) (text ++ cs) =
      partsFrom (text.reverse ++ before) 0 fuel cs := by
  induction text generalizing before with
  | nil => rfl
  | cons c text ih =>
    obtain ⟨hc, htext⟩ := List.forall_mem_cons.1 h
    rw [List.length_cons, ← Nat.add_assoc, List.cons_append, partsFrom, if_neg hc.2, if_neg hc.1]
    simpa using ih htext (c :: before)

theorem upToBracket_append {body : List Char} (hopen : '[' ∉ body) (hclose : ']' ∉ body)
    (after : List Char) : upToBracket (body ++ ']' :: after) = some (body, after) := by
  induction body with
  | nil => rfl
  | cons c body ih =>
    rw [List.mem_cons, not_or] at hopen hclose
    rw [List.cons_append, upToBracket, if_neg fun e => hclose.1 e.symm,
      if_neg fun e => hopen.1 e.symm, ih hopen.2 hclose.2]
    rfl

/-- What stands between the brackets of a tag. -/
structure IsTagBody (body : List Char) : Prop where
  head : ∃ c rest, body = c :: rest ∧ startsTag c = true
  noOpen : '[' ∉ body
  noClose : ']' ∉ body

/-- A text without signs of markup, and a tag after it. -/
theorem parts_append_tag {text body : List Char} (htext : ∀ c ∈ text, c ≠ '[' ∧ c ≠ '\\')
    (hbody : IsTagBody body) (after : List Char) :
    parts (text ++ '[' :: (body ++ ']' :: after)) =
      plainPart text ++ .tag (Tag.ofBody body) :: parts after := by
  obtain ⟨c, rest, rfl, hstarts⟩ := hbody.head
  have hfound : tagBody? (c :: rest ++ ']' :: after) = some (c :: rest, after) := by
    rw [List.cons_append, tagBody?, if_pos hstarts, ← List.cons_append]
    exact upToBracket_append hbody.noOpen hbody.noClose after
  have hfuel : (text ++ '[' :: (c :: rest ++ ']' :: after)).length + 1 =
      (c :: rest ++ ']' :: after).length + 1 + 1 + text.length := by
    simp only [List.length_append, List.length_cons]
    omega
  rw [parts, hfuel, partsFrom_append htext, partsFrom, if_neg (by decide), if_pos rfl, hfound]
  simp only [List.append_nil, List.reverse_reverse]
  rw [@partsFrom_fuel [] after 0 _ (after.length + 1) (by simp; omega) (Nat.lt_succ_self _)]
  simp [plainPart, tagPart, parts]

end Markup

/-- A text that is too light for markup and for codes is plain. -/
theorem isPlain_of_light {s : String} (hlight : weight s.toList < 2)
    (hshown : ∀ c ∈ s.toList, IsShown c) : IsPlain s := by
  rcases parts_cases s.toList with ⟨htag, hescape, -⟩ | ⟨-, hless⟩
  · rcases Emoji.replace_cases s.toList with hcode | hless
    · exact ⟨htag, hescape, hcode, hshown⟩
    · omega
  · omega

end SuiteCompiler.Console
