/-
  SuiteCompiler/Text/Utf8.lean
  ============================
  Reading UTF-8.  A sequence is well formed if it is the shortest form of a
  scalar value (RFC 3629); the first one that is not stops the reading, and the
  fault tells the bytes that cannot begin or continue a character.
-/

namespace SuiteCompiler.Text

/-- Why bytes are not a character. -/
inductive Utf8Cause where
  /-- No character starts with this byte. -/
  | invalidStart
  /-- The byte after the reported ones cannot follow them. -/
  | invalidContinuation
  /-- The text ends inside a character. -/
  | unexpectedEnd
  deriving DecidableEq, Repr

/-- The first place where a text is not UTF-8: `offset` bytes precede it, and it consists of the
byte `first` and `more` further ones. -/
structure Utf8Fault where
  cause : Utf8Cause
  offset : Nat
  first : UInt8
  more : Nat
  deriving DecidableEq, Repr

/-- A byte that may stand after the first place of a character. -/
def isContinuation (b : UInt8) : Bool := 0x80 ≤ b && b ≤ 0xBF

/-- Whether `b` may follow the leading byte `lead`: it continues a character and neither makes
the form longer than needed nor leaves the scalar values. -/
def mayFollow (lead b : UInt8) : Bool :=
  isContinuation b &&
    (if lead = 0xE0 then 0xA0 ≤ b
     else if lead = 0xED then b ≤ 0x9F
     else if lead = 0xF0 then 0x90 ≤ b
     else if lead = 0xF4 then b ≤ 0x8F
     else true)

/-- The number of bytes of the character that `lead` starts, or none if it starts none. -/
def sequenceLength (lead : UInt8) : Option Nat :=
  if lead < 0x80 then some 1
  else if lead < 0xC2 then none
  else if lead < 0xE0 then some 2
  else if lead < 0xF0 then some 3
  else if lead < 0xF5 then some 4
  else none

/-- The six low bits of a continuing byte. -/
def payload (b : UInt8) : Nat := b.toNat - 0x80

/-- The first character of a text that starts with `lead`, the number of bytes after `lead` that
it takes, or the cause and the number of bytes after `lead` that are to blame. -/
def decodeFirst (lead : UInt8) (rest : List UInt8) : Except (Utf8Cause × Nat) (Char × Nat) :=
  match sequenceLength lead with
  | none => .error (.invalidStart, 0)
  | some 1 => .ok (Char.ofNat lead.toNat, 0)
  | some 2 =>
    match rest with
    | [] => .error (.unexpectedEnd, 0)
    | b :: _ =>
      if mayFollow lead b then .ok (Char.ofNat ((lead.toNat - 0xC0) * 64 + payload b), 1)
      else .error (.invalidContinuation, 0)
  | some 3 =>
    match rest with
    | [] => .error (.unexpectedEnd, 0)
    | b :: rest =>
      if mayFollow lead b then
        match rest with
        | [] => .error (.unexpectedEnd, 1)
        | c :: _ =>
          if isContinuation c then
            .ok (Char.ofNat (((lead.toNat - 0xE0) * 64 + payload b) * 64 + payload c), 2)
          else .error (.invalidContinuation, 1)
      else .error (.invalidContinuation, 0)
  | some _ =>
    match rest with
    | [] => .error (.unexpectedEnd, 0)
    | b :: rest =>
      if mayFollow lead b then
        match rest with
        | [] => .error (.unexpectedEnd, 1)
        | c :: rest =>
          if isContinuation c then
            match rest with
            | [] => .error (.unexpectedEnd, 2)
            | d :: _ =>
              if isContinuation d then
                .ok (Char.ofNat
                  ((((lead.toNat - 0xF0) * 64 + payload b) * 64 + payload c) * 64 + payload d), 3)
              else .error (.invalidContinuation, 2)
          else .error (.invalidContinuation, 1)
      else .error (.invalidContinuation, 0)

/-- The characters of a UTF-8 text of which `offset` bytes are already read; `skip` bytes belong
to a character that is decoded. -/
def decodeFrom (offset : Nat) : Nat → List UInt8 → Except Utf8Fault (List Char)
  | _, [] => .ok []
  | skip + 1, _ :: rest => decodeFrom (offset + 1) skip rest
  | 0, lead :: rest =>
    match decodeFirst lead rest with
    | .error (cause, more) => .error ⟨cause, offset, lead, more⟩
    | .ok (c, taken) => (decodeFrom (offset + 1) taken rest).map (c :: ·)

/-- The characters of a UTF-8 text. -/
def decodeUtf8 (bytes : List UInt8) : Except Utf8Fault (List Char) := decodeFrom 0 0 bytes

end SuiteCompiler.Text
