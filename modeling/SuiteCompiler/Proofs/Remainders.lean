/-
  SuiteCompiler/Proofs/Remainders.lean
  ====================================
  Where the JSON reader is in its text.

  What a reader leaves is an end of the text that it was given, so whatever it meets
  later stands in that text too.  Carried along is the one way to stop that is no fault
  of JSON: a reader gives up on a whole number only if the text has its digits, in one
  run that is longer than the limit (`Stays`).  Every reader keeps this; for values,
  items and fields it is one induction on the bound of the calls.
-/
import Mathlib.Data.List.Basic
import Mathlib.Data.List.TakeWhile
import SuiteCompiler.Document.Reader

namespace SuiteCompiler.Json

/-! ### Texts and their ends -/

/-- A text has a run of so many digits, more than are read as one whole number. -/
def HasLongRun (cs : List Char) (count : Nat) : Prop :=
  Number.digitLimit < count ∧ ∃ ds, ds <:+: cs ∧ ds.length = count ∧ ∀ c ∈ ds, isDigit c = true

theorem HasLongRun.of_suffix {cs cs' : List Char} {count : Nat} (h : HasLongRun cs count)
    (hcs : cs <:+ cs') : HasLongRun cs' count := by
  obtain ⟨hcount, ds, hds, hlength, hdigits⟩ := h
  exact ⟨hcount, ds, hds.trans hcs.isInfix, hlength, hdigits⟩

theorem HasLongRun.lt_length {cs : List Char} {count : Nat} (h : HasLongRun cs count) :
    Number.digitLimit < cs.length := by
  obtain ⟨hcount, ds, hds, rfl, -⟩ := h
  exact hcount.trans_le hds.length_le

/-- What reading a text may come to: what is left is an end of the text, and only a long run of
digits in it is given up. -/
def Stays {α : Type} (cs : List Char) : Reading α → Prop
  | .ok (_, rest) => rest <:+ cs
  | .error (.malformed _ _) => True
  | .error (.tooManyDigits count) => HasLongRun cs count

namespace Stays

variable {α β : Type} {cs cs' : List Char}

theorem of_suffix {outcome : Reading α} (h : Stays cs outcome) (hcs : cs <:+ cs') :
    Stays cs' outcome := by
  cases outcome with
  | ok result => exact List.IsSuffix.trans h hcs
  | error stop =>
    cases stop with
    | malformed fault rest => trivial
    | tooManyDigits count => exact HasLongRun.of_suffix h hcs

theorem map {outcome : Reading α} (h : Stays cs outcome) (f : α → β) :
    Stays cs (outcome.map fun (a, rest) => (f a, rest)) := by
  cases outcome with
  | ok result => exact h
  | error stop => cases stop <;> exact h

/-- Where reading stops, it does not matter what was read. -/
theorem error {stop : Stop} (h : Stays cs (.error stop : Reading α)) :
    Stays cs (.error stop : Reading β) := by
  cases stop <;> exact h

end Stays

theorem skipSpace_suffix (cs : List Char) : skipSpace cs <:+ cs := List.dropWhile_suffix _

theorem suffix_of_skipSpace {cs rest more : List Char} {c : Char} (h : rest <:+ cs)
    (hmore : skipSpace rest = c :: more) : more <:+ cs := by
  have hspace := (skipSpace_suffix rest).trans h
  rw [hmore] at hspace
  exact (List.suffix_cons c more).trans hspace

/-! ### Texts between quotes -/

theorem stays_readUnicodeEscape (atLetter cs : List Char) :
    Stays cs (readUnicodeEscape atLetter cs) := by
  unfold readUnicodeEscape
  split
  · next a b c d rest =>
    have hrest : rest <:+ a :: b :: c :: d :: rest := ⟨[a, b, c, d], rfl⟩
    split
    · trivial
    · split
      · trivial
      · split
        · split
          · next e f g h x more _ =>
            split
            · trivial
            · split
              · exact ⟨[a, b, c, d, '\\', 'u', e, f, g, h], rfl⟩
              · exact hrest
          · exact hrest
        · exact hrest
  · trivial

theorem stays_readChar (opening cs : List Char) : Stays cs (readChar opening cs) := by
  unfold readChar
  split
  · trivial
  · trivial
  · next rest => exact (stays_readUnicodeEscape _ rest).of_suffix ⟨['\\', 'u'], rfl⟩
  · next c rest _ =>
    split
    · exact ⟨['\\', c], rfl⟩
    · trivial
  · split
    · trivial
    · exact List.suffix_cons _ _

theorem stays_readCharsFrom (opening : List Char) (fuel : Nat) (cs : List Char) :
    Stays cs (readCharsFrom opening fuel cs) := by
  induction fuel generalizing cs with
  | zero =>
    unfold readCharsFrom
    split
    · exact List.suffix_cons _ _
    · trivial
    · contradiction
  | succ fuel ih =>
    have hchar := stays_readChar opening cs
    unfold readCharsFrom
    split
    · exact List.suffix_cons _ _
    · contradiction
    · next hfuel _ =>
      obtain rfl := Nat.succ.inj hfuel
      split
      · next stop hstop =>
        rw [hstop] at hchar
        exact hchar.error
      · next c rest hread =>
        rw [hread] at hchar
        exact ((ih rest).of_suffix hchar).map (c :: ·)

theorem stays_readText (cs : List Char) : Stays cs (readText cs) :=
  (stays_readCharsFrom _ _ cs).map String.ofList

/-! ### Numbers -/

/-- The digits before a point begin the text. -/
theorem readWhole_eq_some {cs whole rest : List Char} (h : readWhole cs = some (whole, rest)) :
    whole ++ rest = cs ∧ ∀ c ∈ whole, isDigit c = true := by
  unfold readWhole at h
  split at h
  · cases h
  · rename_i c cs
    split at h
    · rename_i hc
      obtain ⟨rfl, rfl⟩ := Prod.mk.inj (Option.some.inj h)
      subst hc
      refine ⟨rfl, fun c hc => ?_⟩
      obtain rfl := List.mem_singleton.1 hc
      decide
    · split at h
      · rename_i hc
        obtain ⟨rfl, rfl⟩ := Prod.mk.inj (Option.some.inj h)
        refine ⟨congrArg (c :: ·) List.takeWhile_append_dropWhile, fun d hd => ?_⟩
        rcases List.mem_cons.1 hd with rfl | hd
        · exact hc
        · exact List.mem_takeWhile_imp hd
      · cases h

theorem readFraction_suffix (cs : List Char) :
    ((readFraction cs).map Prod.snd).getD cs <:+ cs := by
  unfold readFraction
  split
  · split
    · exact List.suffix_rfl
    · exact (List.dropWhile_suffix _).trans (List.suffix_cons _ _)
  · exact List.suffix_rfl

theorem readExponent_suffix (cs : List Char) :
    ((readExponent cs).map Prod.snd).getD cs <:+ cs := by
  unfold readExponent
  split
  · exact List.suffix_rfl
  · next letter cs =>
    split
    · split
      next negative more hsign =>
      have hmore : more <:+ cs := by
        split at hsign
        all_goals obtain ⟨-, rfl⟩ := Prod.mk.inj hsign
        · exact List.suffix_cons _ _
        · exact List.suffix_cons _ _
        · exact List.suffix_rfl
      dsimp only
      split
      · exact List.suffix_rfl
      · exact (List.dropWhile_suffix _).trans (hmore.trans (List.suffix_cons _ _))
    · exact List.suffix_rfl

theorem readUnsigned_eq_some {negative : Bool} {cs rest : List Char} {number : Except Nat Value}
    (h : readUnsigned negative cs = some (number, rest)) :
    rest <:+ cs ∧ ∀ count, number = .error count → HasLongRun cs count := by
  unfold readUnsigned at h
  split at h
  · cases h
  · next whole more hwhole =>
    obtain ⟨happend, hdigits⟩ := readWhole_eq_some hwhole
    have hmore : more <:+ cs := ⟨whole, happend⟩
    have hrest := (readExponent_suffix _).trans ((readFraction_suffix more).trans hmore)
    dsimp only at h
    split at h
    · split at h
      · next hlimit =>
        obtain ⟨rfl, rfl⟩ := Prod.mk.inj (Option.some.inj h)
        refine ⟨hrest, fun count hcount => ?_⟩
        obtain rfl := Except.error.inj hcount
        exact ⟨hlimit, whole, List.IsPrefix.isInfix ⟨more, happend⟩, rfl, hdigits⟩
      · obtain ⟨rfl, rfl⟩ := Prod.mk.inj (Option.some.inj h)
        exact ⟨hrest, nofun⟩
    · obtain ⟨rfl, rfl⟩ := Prod.mk.inj (Option.some.inj h)
      exact ⟨hrest, nofun⟩

theorem stays_readNumber (cs : List Char) : Stays cs (readNumber cs) := by
  unfold readNumber
  dsimp only
  split
  · trivial
  · next count rest hread =>
    split at hread
    · exact ((readUnsigned_eq_some hread).2 count rfl).of_suffix (List.suffix_cons _ _)
    · exact (readUnsigned_eq_some hread).2 count rfl
  · next v rest hread =>
    split at hread
    · exact (readUnsigned_eq_some hread).1.trans (List.suffix_cons _ _)
    · exact (readUnsigned_eq_some hread).1

/-! ### Values -/

theorem stays_readScalar (cs : List Char) : Stays cs (readScalar cs) := by
  unfold readScalar
  split
  · next v rest hfound =>
    obtain ⟨⟨word, value⟩, -, hword⟩ := List.exists_of_findSome?_eq_some hfound
    obtain ⟨rest', hprefix, hpair⟩ := Option.map_eq_some_iff.1 hword
    obtain ⟨-, rfl⟩ := Prod.mk.inj hpair
    exact ⟨word, List.isPrefixOf?_eq_some_iff_append_eq.1 hprefix⟩
  · exact stays_readNumber cs

section Step

variable {fuel : Nat} (hvalue : ∀ cs, Stays cs (readValue fuel cs))
  (hitems : ∀ cs, Stays cs (readItems fuel cs)) (hfields : ∀ cs, Stays cs (readFields fuel cs))

include hitems hfields in
theorem stays_readValue_succ (cs : List Char) : Stays cs (readValue (fuel + 1) cs) := by
  unfold readValue
  split
  · next rest => exact ((stays_readText rest).map Value.text).of_suffix (List.suffix_cons _ _)
  · next rest =>
    have hrest : rest <:+ '[' :: rest := List.suffix_cons _ _
    split
    · next more hmore => exact suffix_of_skipSpace hrest hmore
    · exact ((hitems _).map Value.list).of_suffix ((skipSpace_suffix rest).trans hrest)
  · next rest =>
    have hrest : rest <:+ '\x7b' :: rest := List.suffix_cons _ _
    split
    · next more hmore => exact suffix_of_skipSpace hrest hmore
    · exact ((hfields _).map fun pairs => Value.object (Fields.ofPairs pairs)).of_suffix
        ((skipSpace_suffix rest).trans hrest)
  · exact stays_readScalar cs

include hvalue hitems in
theorem stays_readItems_succ (cs : List Char) : Stays cs (readItems (fuel + 1) cs) := by
  have hitem := hvalue cs
  unfold readItems
  split
  · next stop hstop =>
    rw [hstop] at hitem
    exact hitem.error
  · next item rest hread =>
    rw [hread] at hitem
    split
    · next more hmore => exact suffix_of_skipSpace hitem hmore
    · next more hmore =>
      refine ((hitems _).map (item :: ·)).of_suffix ?_
      exact (skipSpace_suffix more).trans (suffix_of_skipSpace hitem hmore)
    · trivial

include hvalue hfields in
theorem stays_readFields_succ (cs : List Char) : Stays cs (readFields (fuel + 1) cs) := by
  unfold readFields
  split
  · next cs =>
    have hname : Stays ('"' :: cs) (readText cs) :=
      (stays_readText cs).of_suffix (List.suffix_cons _ _)
    split
    · next stop hstop =>
      rw [hstop] at hname
      exact hname.error
    · next name rest hread =>
      rw [hread] at hname
      split
      · next more hmore =>
        have hafter := (skipSpace_suffix more).trans (suffix_of_skipSpace hname hmore)
        have hread := (hvalue (skipSpace more)).of_suffix hafter
        split
        · next stop hstop =>
          rw [hstop] at hread
          exact hread.error
        · next value rest hvalue =>
          rw [hvalue] at hread
          split
          · next more hmore => exact suffix_of_skipSpace hread hmore
          · next more hmore =>
            refine ((hfields _).map ((name, value) :: ·)).of_suffix ?_
            exact (skipSpace_suffix more).trans (suffix_of_skipSpace hread hmore)
          · trivial
      · trivial
  · trivial

end Step

/-- The readers of values, items and fields call each other, so one induction on the bound of the
calls is for all three. -/
theorem stays_read (fuel : Nat) : (∀ cs, Stays cs (readValue fuel cs)) ∧
    (∀ cs, Stays cs (readItems fuel cs)) ∧ ∀ cs, Stays cs (readFields fuel cs) := by
  induction fuel with
  | zero => exact ⟨fun _ => trivial, fun _ => trivial, fun _ => trivial⟩
  | succ fuel ih =>
    obtain ⟨hvalue, hitems, hfields⟩ := ih
    refine ⟨?_, ?_, ?_⟩
    · exact stays_readValue_succ hitems hfields
    · exact stays_readItems_succ hvalue hitems
    · exact stays_readFields_succ hvalue hfields

/-- A whole number is given up only in a text that has a long run of digits. -/
theorem hasLongRun_of_readDocument {cs : List Char} {count : Nat}
    (h : readDocument cs = .error (.tooManyDigits count)) : HasLongRun cs count := by
  unfold readDocument at h
  split at h
  · cases h
  · have hread := ((stays_read (2 * cs.length + 1)).1 (skipSpace cs)).of_suffix (skipSpace_suffix cs)
    split at h
    · next stop hstop =>
      obtain rfl := Except.error.inj h
      rw [hstop] at hread
      exact hread
    · split at h
      · cases h
      · cases h

theorem hasLongRun_of_parseChars {cs : List Char} {count : Nat}
    (h : Value.parseChars cs = .error (.tooManyDigits count)) : HasLongRun cs count := by
  unfold Value.parseChars at h
  split at h
  · cases h
  · cases h
  · next count' hstop =>
    obtain rfl := JsonError.tooManyDigits.inj (Except.error.inj h)
    exact hasLongRun_of_readDocument hstop

/-- Digits beyond the limit are given up. -/
theorem parseChars_ones {count : Nat} (h : Number.digitLimit < count) :
    Value.parseChars (List.replicate count '1') = .error (.tooManyDigits count) := by
  obtain ⟨more, rfl⟩ : ∃ more, count = more + 1 := ⟨count - 1, by omega⟩
  have hwhole : readWhole (List.replicate (more + 1) '1') =
      some (List.replicate (more + 1) '1', []) := by
    have hdigit : isDigit '1' = true := by decide
    simp [List.replicate_succ, readWhole, hdigit]
  have hunsigned : readUnsigned false (List.replicate (more + 1) '1') =
      some (.error (more + 1), []) := by
    simp [readUnsigned, hwhole, readFraction, readExponent, h]
  rw [List.replicate_succ] at hunsigned ⊢
  have hnumber : readNumber ('1' :: List.replicate more '1') =
      .error (.tooManyDigits (more + 1)) := by
    unfold readNumber
    split
    · next hsign => simp at hsign
    · simp only [hunsigned]
  have hscalar : readScalar ('1' :: List.replicate more '1') =
      .error (.tooManyDigits (more + 1)) := by
    unfold readScalar
    split
    · next hword => cases hword
    · exact hnumber
  have hvalue : ∀ fuel, readValue (fuel + 1) ('1' :: List.replicate more '1') =
      .error (.tooManyDigits (more + 1)) := fun _ => hscalar
  have hspace : skipSpace ('1' :: List.replicate more '1') = '1' :: List.replicate more '1' := rfl
  have hdocument : readDocument ('1' :: List.replicate more '1') =
      .error (.tooManyDigits (more + 1)) := by
    unfold readDocument
    rw [if_neg (by simp), hspace, hvalue]
  rw [Value.parseChars, hdocument]

end SuiteCompiler.Json
