/-
  SuiteCompiler/Proofs/Lexemes.lean
  =================================
  Comments and literals as the lexical grammar of scripts reads them.

  `Context.read` reads on from the opening of a comment or a literal, by the rules of
  ECMAScript: it gives the 16-bit units that the characters denote, and what is left
  after the first place where the construct is closed.  In a quoted literal and in a
  template a backslash starts an escape; a template turns a carriage return into a line
  feed, and a substitution in it ends the text that is read here.

  A text that is written between an opening and a closing as it stands comes through if
  it ends where it was closed and denotes itself.  That can be told from its characters
  alone (`Context.read_eq_iff`): every character has to be plain.  An escape never
  denotes what it is written with, since it has fewer units.
-/
import Mathlib.Data.List.Basic
import SuiteCompiler.Document.Reader

namespace SuiteCompiler.Script

/-! ### Units -/

/-- The 16-bit units of a code point. -/
def codeUnits (n : Nat) : List Nat :=
  if n < 0x10000 then [n] else [0xD800 + (n - 0x10000) / 0x400, 0xDC00 + (n - 0x10000) % 0x400]

/-- The units of characters, which are what a literal denotes. -/
def units (cs : List Char) : List Nat := cs.flatMap fun c => codeUnits c.toNat

theorem length_codeUnits_le (n : Nat) : (codeUnits n).length ≤ 2 := by
  unfold codeUnits
  split <;> simp

theorem length_codeUnits_pos (n : Nat) : 0 < (codeUnits n).length := by
  unfold codeUnits
  split <;> simp

@[simp] theorem units_nil : units [] = [] := rfl

@[simp] theorem units_cons (c : Char) (cs : List Char) :
    units (c :: cs) = codeUnits c.toNat ++ units cs := rfl

@[simp] theorem units_append (xs ys : List Char) : units (xs ++ ys) = units xs ++ units ys :=
  List.flatMap_append

theorem length_le_length_units (cs : List Char) : cs.length ≤ (units cs).length := by
  induction cs with
  | nil => simp
  | cons c cs ih =>
    have hc := length_codeUnits_pos c.toNat
    simp only [units_cons, List.length_cons, List.length_append]
    omega

/-! ### Escapes -/

def isLineTerminator (c : Char) : Bool :=
  c = '\n' || c = '\r' || c = '\u2028' || c = '\u2029'

def isHexDigit (c : Char) : Bool := (Json.hexValue? c).isSome

/-- The number that digits stand for. -/
def numberOf (base : Nat) (cs : List Char) : Nat :=
  cs.foldl (fun n c => base * n + (Json.hexValue? c).getD 0) 0

/-- The escapes of one letter. -/
def letterEscapes : List (Char × Nat) :=
  [('n', 10), ('t', 9), ('r', 13), ('b', 8), ('f', 12), ('v', 11)]

/-- A number of hexadecimal digits, and how many characters it takes. -/
def readHex (count : Nat) (cs : List Char) : Option (List Nat × Nat) :=
  if (cs.take count).length = count && (cs.take count).all isHexDigit then
    some ([numberOf 16 (cs.take count)], count)
  else none

/-- What comes after the letter u of an escape: four digits, or a code point in braces. -/
def readUnicode (cs : List Char) : Option (List Nat × Nat) :=
  if cs.head? = some '\x7b' then
    let digits := cs.tail.takeWhile isHexDigit
    if cs.tail[digits.length]? = some '\x7d' && !digits.isEmpty && numberOf 16 digits ≤ 0x10FFFF then
      some (codeUnits (numberOf 16 digits), digits.length + 2)
    else none
  else readHex 4 cs

/-- A digit after a backslash.  Octal escapes are of old, and only quoted literals have them. -/
def readOctal (legacy : Bool) (c : Char) (cs : List Char) : Option (List Nat × Nat) :=
  if c = '0' && !(cs.head?.any Char.isDigit) then some ([0], 0)
  else if !legacy then none
  else if '8' ≤ c then some ([c.toNat], 0)
  else
    let more := (cs.take (if c ≤ '3' then 2 else 1)).takeWhile fun d => '0' ≤ d && d ≤ '7'
    some ([numberOf 8 (c :: more)], more.length)

/-- The units of the escape by a character, and how many characters it takes after that one. -/
def readEscape (legacy : Bool) (c : Char) (cs : List Char) : Option (List Nat × Nat) :=
  if c = 'x' then readHex 2 cs
  else if c = 'u' then readUnicode cs
  else if c.isDigit then readOctal legacy c cs
  else if c = '\r' && cs.head? = some '\n' then some ([], 1)
  else if isLineTerminator c then some ([], 0)
  else
    match letterEscapes.lookup c with
    | some n => some ([n], 0)
    | none => some (codeUnits c.toNat, 0)

/-- What is denoted takes no more units than what was written. -/
def Shrinks (cs : List Char) (us : List Nat) (width : Nat) : Prop :=
  width ≤ cs.length ∧ us.length ≤ (units (cs.take width)).length

theorem Shrinks.cons {cs : List Char} {us : List Nat} {width : Nat} (h : Shrinks cs us width)
    (c : Char) : Shrinks (c :: cs) us (width + 1) := by
  refine ⟨by simpa using h.1, ?_⟩
  rw [List.take_succ_cons, units_cons, List.length_append]
  exact Nat.le_trans h.2 (Nat.le_add_left _ _)

/-- One unit for a character or more. -/
theorem shrinks_of_length_le {cs : List Char} {us : List Nat} {width : Nat}
    (hwidth : width ≤ cs.length) (hus : us.length ≤ width) : Shrinks cs us width := by
  refine ⟨hwidth, Nat.le_trans hus ?_⟩
  have h := length_le_length_units (cs.take width)
  rwa [List.length_take, Nat.min_eq_left hwidth] at h

theorem length_pos_of_head? {cs : List Char} {c : Char} (h : cs.head? = some c) :
    0 < cs.length := by
  cases cs with
  | nil => cases h
  | cons _ _ => simp

theorem shrinks_readHex {count : Nat} {cs : List Char} {us : List Nat} {width : Nat}
    (hcount : 0 < count) (h : readHex count cs = some (us, width)) : Shrinks cs us width := by
  unfold readHex at h
  split at h
  · rename_i hdigits
    obtain ⟨rfl, rfl⟩ := Prod.mk.inj (Option.some.inj h)
    have hlength : (cs.take count).length = count := by
      simp only [Bool.and_eq_true, decide_eq_true_eq] at hdigits
      exact hdigits.1
    refine shrinks_of_length_le ?_ hcount
    rw [List.length_take] at hlength
    omega
  · cases h

theorem shrinks_readUnicode {cs : List Char} {us : List Nat} {width : Nat}
    (h : readUnicode cs = some (us, width)) : Shrinks cs us width := by
  unfold readUnicode at h
  split at h
  · rename_i hbrace
    dsimp only at h
    split at h
    · rename_i hclosed
      obtain ⟨rfl, rfl⟩ := Prod.mk.inj (Option.some.inj h)
      simp only [Bool.and_eq_true, decide_eq_true_eq] at hclosed
      obtain ⟨hend, -⟩ := (List.getElem?_eq_some_iff.1 hclosed.1.1)
      have hlength := length_pos_of_head? hbrace
      rw [List.length_tail] at hend
      refine shrinks_of_length_le (by omega) ?_
      exact Nat.le_trans (length_codeUnits_le _) (by omega)
    · cases h
  · exact shrinks_readHex (by decide) h

theorem shrinks_readOctal {legacy : Bool} {c : Char} {cs : List Char} {us : List Nat} {width : Nat}
    (h : readOctal legacy c cs = some (us, width)) : Shrinks (c :: cs) us (width + 1) := by
  unfold readOctal at h
  split at h
  · obtain ⟨rfl, rfl⟩ := Prod.mk.inj (Option.some.inj h)
    exact shrinks_of_length_le (by simp) (by simp)
  · split at h
    · cases h
    · split at h
      · obtain ⟨rfl, rfl⟩ := Prod.mk.inj (Option.some.inj h)
        exact shrinks_of_length_le (by simp) (by simp)
      · obtain ⟨rfl, rfl⟩ := Prod.mk.inj (Option.some.inj h)
        refine shrinks_of_length_le ?_ (by simp)
        have hmore := (List.takeWhile_prefix (fun d : Char => decide ('0' ≤ d) && decide (d ≤ '7'))
          (l := cs.take (if c ≤ '3' then 2 else 1))).length_le
        rw [List.length_take] at hmore
        simp only [List.length_cons]
        omega

/-- An escape has no more units than the characters after its backslash. -/
theorem shrinks_readEscape {legacy : Bool} {c : Char} {cs : List Char} {us : List Nat}
    {width : Nat} (h : readEscape legacy c cs = some (us, width)) :
    Shrinks (c :: cs) us (width + 1) := by
  unfold readEscape at h
  split at h
  · exact (shrinks_readHex (by decide) h).cons c
  · split at h
    · exact (shrinks_readUnicode h).cons c
    · split at h
      · exact shrinks_readOctal h
      · split at h
        · rename_i hreturn
          obtain ⟨rfl, rfl⟩ := Prod.mk.inj (Option.some.inj h)
          simp only [Bool.and_eq_true, decide_eq_true_eq] at hreturn
          have hlength := length_pos_of_head? hreturn.2
          exact shrinks_of_length_le (by simp only [List.length_cons]; omega) (by simp)
        · split at h
          · obtain ⟨rfl, rfl⟩ := Prod.mk.inj (Option.some.inj h)
            exact shrinks_of_length_le (by simp) (by simp)
          · split at h
            · obtain ⟨rfl, rfl⟩ := Prod.mk.inj (Option.some.inj h)
              exact shrinks_of_length_le (by simp) (by simp)
            · obtain ⟨rfl, rfl⟩ := Prod.mk.inj (Option.some.inj h)
              exact ⟨by simp, by simp⟩

/-! ### Comments and literals -/

/-- What user text may stand in. -/
inductive Context where
  /-- A comment that goes on until it is closed. -/
  | block
  /-- A comment that ends with its line. -/
  | line
  /-- A literal in double quotes. -/
  | quoted
  /-- A literal in back quotes. -/
  | template
  deriving DecidableEq, Repr

/-- What the next characters of a comment or a literal are. -/
inductive Step where
  /-- The closing, of some characters. -/
  | close (width : Nat)
  /-- Units, denoted by some characters. -/
  | take (us : List Nat) (width : Nat)
  /-- Nothing that can stand there. -/
  | fail
  deriving DecidableEq, Repr

namespace Context

def opening : Context → List Char
  | block => ['/', '*']
  | line => ['/', '/']
  | quoted => ['"']
  | template => ['\x60']

/-- What a construct is closed by when it is written; other line terminators end a line as well. -/
def closing : Context → List Char
  | block => ['*', '/']
  | line => ['\n']
  | quoted => ['"']
  | template => ['\x60']

/-- The next step through a construct, at a character with others after it. -/
def step : Context → Char → List Char → Step
  | block, c, cs => if c = '*' && cs.head? = some '/' then .close 2 else .take (codeUnits c.toNat) 1
  | line, c, _ => if isLineTerminator c then .close 1 else .take (codeUnits c.toNat) 1
  | quoted, c, cs =>
    if c = '"' then .close 1
    else if c = '\n' || c = '\r' then .fail
    else if c = '\\' then escape true cs
    else .take (codeUnits c.toNat) 1
  | template, c, cs =>
    if c = '\x60' then .close 1
    else if c = '$' && cs.head? = some '\x7b' then .fail
    else if c = '\r' then .take [10] (if cs.head? = some '\n' then 2 else 1)
    else if c = '\\' then escape false cs
    else .take (codeUnits c.toNat) 1
where
  escape (legacy : Bool) : List Char → Step
    | [] => .fail
    | c :: cs =>
      match readEscape legacy c cs with
      | some (us, width) => .take us (width + 2)
      | none => .fail

/-- Reads a construct up to its closing: what it denotes, and what is left.  Characters to skip
belong to the step before. -/
def readFrom (ctx : Context) : Nat → List Char → Option (List Nat × List Char)
  | _, [] => none
  | skip + 1, _ :: cs => readFrom ctx skip cs
  | 0, c :: cs =>
    match ctx.step c cs with
    | .fail => none
    | .close width => some ([], (c :: cs).drop width)
    | .take us width => (readFrom ctx (width - 1) cs).map fun (more, rest) => (us ++ more, rest)

def read (ctx : Context) (cs : List Char) : Option (List Nat × List Char) := ctx.readFrom 0 cs

/-- A character stands for itself, given the one after it. -/
def isPlain : Context → Char → Option Char → Bool
  | block, c, next => !(c = '*' && next = some '/')
  | line, c, _ => !isLineTerminator c
  | quoted, c, _ => c ≠ '"' && c ≠ '\n' && c ≠ '\r' && c ≠ '\\'
  | template, c, next =>
    c ≠ '\x60' && !(c = '$' && next = some '\x7b') && c ≠ '\r' && c ≠ '\\'

/-- A text that can stand in a construct as it is: all its characters are plain. -/
def admits (ctx : Context) : List Char → Bool
  | [] => true
  | c :: cs => ctx.isPlain c cs.head? && ctx.admits cs

variable {ctx : Context}

theorem readFrom_eq (skip : Nat) (cs : List Char) : ctx.readFrom skip cs = ctx.read (cs.drop skip) := by
  induction cs generalizing skip with
  | nil => simp [readFrom, read]
  | cons c cs ih =>
    cases skip with
    | zero => rfl
    | succ skip => simpa [readFrom] using ih skip

/-! ### One step -/

theorem step_of_isPlain {c : Char} {cs : List Char} (h : ctx.isPlain c cs.head? = true) :
    ctx.step c cs = .take (codeUnits c.toNat) 1 := by
  cases ctx <;> simp_all [isPlain, step, imp_iff_not_or]

theorem shrinks_escape {legacy : Bool} {cs : List Char} {us : List Nat} {width : Nat}
    (h : step.escape legacy cs = .take us width) :
    ∃ w, width = w + 1 ∧ Shrinks cs us w := by
  cases cs with
  | nil => cases h
  | cons c cs =>
    rw [step.escape] at h
    split at h
    · rename_i us' width' hread
      obtain ⟨rfl, rfl⟩ := Step.take.inj h
      exact ⟨width' + 1, rfl, shrinks_readEscape hread⟩
    · cases h

/-- An escape denotes less than what is written. -/
theorem ne_units_of_escape {legacy : Bool} {c : Char} {cs : List Char} {us : List Nat} {width : Nat}
    (h : step.escape legacy cs = .take us width) :
    ∃ w, width = w + 1 ∧ w ≤ cs.length ∧ us.length ≤ (units (c :: cs.take w)).length ∧
      us ≠ units (c :: cs.take w) := by
  obtain ⟨w, rfl, hw, hus⟩ := shrinks_escape h
  have hc := length_codeUnits_pos c.toNat
  have hlength : us.length < (units (c :: cs.take w)).length := by
    rw [units_cons, List.length_append]
    omega
  refine ⟨w, rfl, hw, Nat.le_of_lt hlength, fun heq => ?_⟩
  rw [heq] at hlength
  exact Nat.lt_irrefl _ hlength

/-- A step that takes characters takes one that is plain, or denotes something else than them. -/
theorem step_eq_take {c : Char} {cs : List Char} {us : List Nat} {width : Nat}
    (h : ctx.step c cs = .take us width) :
    (ctx.isPlain c cs.head? = true ∧ us = codeUnits c.toNat ∧ width = 1) ∨
      ∃ w, width = w + 1 ∧ w ≤ cs.length ∧ us.length ≤ (units (c :: cs.take w)).length ∧
        us ≠ units (c :: cs.take w) := by
  cases ctx with
  | block =>
    left
    rw [step] at h
    split at h
    · cases h
    · obtain ⟨rfl, rfl⟩ := Step.take.inj h
      exact ⟨by simp_all [isPlain, imp_iff_not_or], rfl, rfl⟩
  | line =>
    left
    rw [step] at h
    split at h
    · cases h
    · obtain ⟨rfl, rfl⟩ := Step.take.inj h
      exact ⟨by simp_all [isPlain], rfl, rfl⟩
  | quoted =>
    rw [step] at h
    split at h
    · cases h
    · split at h
      · cases h
      · split at h
        · exact Or.inr (ne_units_of_escape h)
        · left
          obtain ⟨rfl, rfl⟩ := Step.take.inj h
          exact ⟨by simp_all [isPlain], rfl, rfl⟩
  | template =>
    rw [step] at h
    split at h
    · cases h
    · split at h
      · cases h
      · split at h
        · rename_i hreturn
          -- a carriage return comes out as a line feed
          right
          obtain ⟨rfl, rfl⟩ := Step.take.inj h
          subst hreturn
          have hne : ∀ us, [10] ≠ units ('\r' :: us) := by
            intro us heq
            exact absurd (List.head_eq_of_cons_eq heq) (by decide)
          split
          · rename_i hnext
            have hlength := length_pos_of_head? hnext
            exact ⟨1, rfl, hlength, by simp [codeUnits], hne _⟩
          · exact ⟨0, rfl, Nat.zero_le _, by simp [codeUnits], hne _⟩
        · split at h
          · exact Or.inr (ne_units_of_escape h)
          · left
            obtain ⟨rfl, rfl⟩ := Step.take.inj h
            exact ⟨by simp_all [isPlain, imp_iff_not_or], rfl, rfl⟩

theorem escape_ne_close {legacy : Bool} {cs : List Char} {width : Nat} :
    step.escape legacy cs ≠ .close width := by
  unfold step.escape
  split
  · simp
  · split <;> simp

/-- A construct is closed by as many characters as it is when it is written. -/
theorem step_eq_close {c : Char} {cs : List Char} {width : Nat} (h : ctx.step c cs = .close width) :
    width = ctx.closing.length ∧ width ≤ cs.length + 1 := by
  cases ctx with
  | block =>
    rw [step] at h
    split at h
    · rename_i hclose
      simp only [Bool.and_eq_true, decide_eq_true_eq] at hclose
      have hlength := length_pos_of_head? hclose.2
      obtain rfl := Step.close.inj h
      exact ⟨rfl, by omega⟩
    · cases h
  | line =>
    rw [step] at h
    split at h
    · obtain rfl := Step.close.inj h
      exact ⟨rfl, by omega⟩
    · cases h
  | quoted =>
    rw [step] at h
    split at h
    · obtain rfl := Step.close.inj h
      exact ⟨rfl, by omega⟩
    · split at h
      · cases h
      · split at h
        · exact absurd h escape_ne_close
        · cases h
  | template =>
    rw [step] at h
    split at h
    · obtain rfl := Step.close.inj h
      exact ⟨rfl, by omega⟩
    · split at h
      · cases h
      · split at h
        · cases h
        · split at h
          · exact absurd h escape_ne_close
          · cases h

theorem step_closing (after : List Char) :
    ∃ c cs, ctx.closing ++ after = c :: cs ∧ ctx.step c cs = .close ctx.closing.length := by
  cases ctx with
  | block => exact ⟨'*', '/' :: after, rfl, rfl⟩
  | line => exact ⟨'\n', after, rfl, rfl⟩
  | quoted => exact ⟨'"', after, rfl, rfl⟩
  | template => exact ⟨'\x60', after, rfl, rfl⟩

/-- What closes a construct does not change how the character before it is read. -/
theorem isPlain_of_step_close {d : Char} {cs : List Char} {width : Nat}
    (h : ctx.step d cs = .close width) (c : Char) :
    ctx.isPlain c (some d) = ctx.isPlain c none := by
  cases ctx with
  | block =>
    rw [step] at h
    split at h
    · simp_all [isPlain]
    · cases h
  | line => rfl
  | quoted => rfl
  | template =>
    rw [step] at h
    split at h
    · simp_all [isPlain]
    · split at h
      · cases h
      · split at h
        · cases h
        · split at h
          · exact absurd h escape_ne_close
          · cases h

/-! ### Whole texts -/

theorem read_cons (c : Char) (cs : List Char) :
    ctx.read (c :: cs) =
      match ctx.step c cs with
      | .fail => none
      | .close width => some ([], (c :: cs).drop width)
      | .take us width => (ctx.read (cs.drop (width - 1))).map fun (more, rest) => (us ++ more, rest) := by
  rw [read, readFrom]
  cases ctx.step c cs with
  | take us width => simp only [readFrom_eq]
  | close width => rfl
  | fail => rfl

theorem admits_cons {c : Char} {cs : List Char} :
    ctx.admits (c :: cs) = (ctx.isPlain c cs.head? && ctx.admits cs) := rfl

/-- What is read splits into characters, of which no more units are denoted than they have, and a
closing.  If they denote themselves they are plain. -/
theorem exists_of_read {cs : List Char} {us : List Nat} {rest : List Char}
    (h : ctx.read cs = some (us, rest)) :
    ∃ taken closing, cs = taken ++ (closing ++ rest) ∧ closing.length = ctx.closing.length ∧
      us.length ≤ (units taken).length ∧ (us = units taken → ctx.admits taken = true) ∧
      ∀ c, ctx.isPlain c (closing ++ rest).head? = ctx.isPlain c none := by
  generalize hn : cs.length = n
  induction n using Nat.strongRecOn generalizing cs us with
  | ind n ih =>
    cases cs with
    | nil => cases h
    | cons c cs =>
      rw [read_cons] at h
      cases hstep : ctx.step c cs with
      | fail => simp [hstep] at h
      | close width =>
        simp only [hstep] at h
        obtain ⟨rfl, rfl⟩ := Prod.mk.inj (Option.some.inj h)
        obtain ⟨hwidth, hlength⟩ := step_eq_close hstep
        refine ⟨[], (c :: cs).take width, by simp, ?_, by simp, fun _ => rfl, fun d => ?_⟩
        · rw [List.length_take, List.length_cons]
          omega
        · rw [List.take_append_drop]
          exact isPlain_of_step_close hstep d
      | take us' width =>
        simp only [hstep] at h
        obtain ⟨⟨more, rest'⟩, hread, heq⟩ := Option.map_eq_some_iff.1 h
        simp only [Prod.mk.injEq] at heq
        obtain ⟨rfl, rfl⟩ := heq
        simp only [List.length_cons] at hn
        rcases step_eq_take hstep with ⟨hplain, rfl, rfl⟩ | ⟨w, rfl, hw, hle, hne⟩
        · rw [Nat.sub_self, List.drop_zero] at hread
          obtain ⟨taken, closing, rfl, hclosing, hmore, hadmits, hlast⟩ :=
            ih cs.length (by omega) hread rfl
          refine ⟨c :: taken, closing, rfl, hclosing, ?_, fun heq => ?_, hlast⟩
          · simp only [units_cons, List.length_append]
            omega
          · rw [units_cons, List.append_cancel_left_eq] at heq
            rw [admits_cons, hadmits heq, Bool.and_true]
            cases taken with
            | nil => exact (hlast c).symm.trans hplain
            | cons d taken => exact hplain
        · -- an escape takes more than one character, and denotes something else
          rw [Nat.add_sub_cancel] at hread
          obtain ⟨taken, closing, hcs, hclosing, hmore, -, hlast⟩ :=
            ih (cs.drop w).length (by rw [List.length_drop]; omega) hread rfl
          refine ⟨c :: cs.take w ++ taken, closing, ?_, hclosing, ?_, fun heq => ?_, hlast⟩
          · rw [List.append_assoc, ← hcs, List.cons_append, List.take_append_drop]
          · rw [units_append, List.length_append, List.length_append]
            omega
          · rw [units_append] at heq
            have hlengths := congrArg List.length heq
            rw [List.length_append, List.length_append] at hlengths
            exact absurd (List.append_inj_left heq (by omega)) hne

theorem read_closing (after : List Char) : ctx.read (ctx.closing ++ after) = some ([], after) := by
  obtain ⟨c, cs, hcs, hstep⟩ := ctx.step_closing after
  rw [hcs, read_cons, hstep]
  dsimp only
  rw [← hcs, List.drop_left]

theorem read_of_admits {text : List Char} (h : ctx.admits text = true) (after : List Char) :
    ctx.read (text ++ (ctx.closing ++ after)) = some (units text, after) := by
  induction text with
  | nil => exact read_closing after
  | cons c text ih =>
    rw [admits_cons, Bool.and_eq_true] at h
    have hplain : ctx.isPlain c (text ++ (ctx.closing ++ after)).head? = true := by
      cases text with
      | nil =>
        obtain ⟨d, cs, hcs, hstep⟩ := ctx.step_closing after
        rw [List.nil_append, hcs]
        exact (isPlain_of_step_close hstep c).trans h.1
      | cons d text => exact h.1
    rw [List.cons_append, read_cons, step_of_isPlain hplain]
    simp only [Nat.sub_self, List.drop_zero, ih h.2, Option.map_some, units_cons]

/-- **What comes through.**  A text between the opening and the closing of a construct ends where it
was closed and denotes itself if and only if the construct admits its characters, whatever comes
after. -/
theorem read_eq_iff {text : List Char} (after : List Char) :
    ctx.read (text ++ (ctx.closing ++ after)) = some (units text, after) ↔
      ctx.admits text = true := by
  constructor
  · intro h
    obtain ⟨taken, closing, hcs, hclosing, -, hadmits, -⟩ := exists_of_read h
    rw [← List.append_assoc, ← List.append_assoc] at hcs
    have hprefix := List.append_cancel_right hcs
    obtain ⟨rfl, -⟩ := List.append_inj' hprefix hclosing.symm
    exact hadmits rfl
  · intro h
    exact read_of_admits h after

/-- Texts next to each other, if the first character of the second changes nothing for the one
before it. -/
theorem admits_append {xs ys : List Char}
    (h : ∀ c ∈ xs.getLast?, ctx.isPlain c ys.head? = ctx.isPlain c none) :
    ctx.admits (xs ++ ys) = (ctx.admits xs && ctx.admits ys) := by
  induction xs with
  | nil => rfl
  | cons c xs ih =>
    rw [List.cons_append, admits_cons, admits_cons, Bool.and_assoc]
    cases xs with
    | nil =>
      have hc := h c (by simp)
      rw [List.nil_append, hc]
      rfl
    | cons d xs =>
      rw [ih fun e he => h e (by simpa [List.getLast?_cons_cons] using he)]
      rfl

end Context

end SuiteCompiler.Script
