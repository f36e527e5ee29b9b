import LicenseChooser.Text.Encoding.DoubleByte
import LicenseChooser.Text.Encoding.JisData

/-!
The three encodings of the Japanese character sets. They differ in how two bytes name a row and a cell,
and in how the narrow syllables are reached.
-/

namespace LicenseChooser.Text

namespace Jis

def table : Array Char := ofRows jis0208Rows

def extension : Array Char := ofRows jis0208Extension

def supplement : Array Char := ofRows jis0212Rows

/-- The narrow syllable with this number. -/
def narrow (n : Nat) : Char := .ofNat (0xFF61 + n)

/-- The character in a row and a cell, both counted from 0. -/
def inGrid? (table : Array Char) (row cell : Option Nat) : Option Char := do
  charAt? table ((← row) * 94 + (← cell))

end Jis

/-- Rows are halved into two columns; those between the table and its extension are left to users. -/
def shiftJis : DoubleByte where
  single? b :=
    if b = 0x80 then some '\u0080'
    else if 0xA1 ≤ b.toNat ∧ b.toNat ≤ 0xDF then some (Jis.narrow (b.toNat - 0xA1))
    else none
  begins b := (place? [(0x81, 0x9F), (0xE0, 0xFC)] b.toNat).isSome
  pair? first second := do
    let row ← place? [(0x81, 0x9F), (0xE0, 0xFC)] first.toNat
    let cell ← place? [(0x40, 0x7E), (0x80, 0xFC)] second.toNat
    let place := row * 188 + cell
    if place < 8836 then (charAt? Jis.table place).map ([·])
    else if place < 10716 then some [.ofNat (0xE000 + (place - 8836))]
    else (charAt? Jis.extension (place - 10716)).map ([·])

namespace EucJp

def place (b : UInt8) : Option Nat := place? [(0xA1, 0xFE)] b.toNat

def doubleByte : DoubleByte where
  single? _ := none
  begins b := b = 0x8E || (place b).isSome
  pair? first second :=
    if first = 0x8E ∧ 0xA1 ≤ second.toNat ∧ second.toNat ≤ 0xDF then
      some [Jis.narrow (second.toNat - 0xA1)]
    else (Jis.inGrid? Jis.table (place first) (place second)).map ([·])

/-- A piece of three bytes, of which the first is known. -/
def threeBytes : List UInt8 → SimplePiece
  | [] => .broken 0
  | second :: rest =>
      if (place second).isSome then
        match rest with
        | [] => .broken 1
        | third :: _ =>
            match Jis.inGrid? Jis.supplement (place second) (place third) with
            | some c => ⟨[c], 2, ()⟩
            | none => .brokenAt 1 third
      else .brokenAt 0 second

def piece (b : UInt8) (rest : List UInt8) : SimplePiece :=
  if b = 0x8F then threeBytes rest else doubleByte.piece b rest

end EucJp

def decodeEucJp : List UInt8 → List Char := decodePieces (fun _ => EucJp.piece) ()

namespace Iso2022Jp

/-- What bytes stand for, until an escape sequence says otherwise. -/
inductive Mode where
  | ascii
  | roman
  | narrow
  | double
  deriving DecidableEq, Repr

/-- The mode, and whether nothing was read in it yet: two sequences in a row are not allowed. -/
structure State where
  mode : Mode
  fresh : Bool
  deriving DecidableEq, Repr

def escape? (first second : UInt8) : Option Mode :=
  match first, second with
  | 0x28, 0x42 => some .ascii
  | 0x28, 0x4A => some .roman
  | 0x28, 0x49 => some .narrow
  | 0x24, 0x40 | 0x24, 0x42 => some .double
  | _, _ => none

def place (b : UInt8) : Option Nat := place? [(0x21, 0x7E)] b.toNat

def ascii? (b : UInt8) : Option Char :=
  if isAscii b ∧ b ≠ 0x0E ∧ b ≠ 0x0F then some (.ofNat b.toNat) else none

/-- What a byte stands for in a mode of single bytes. -/
def single? (mode : Mode) (b : UInt8) : Option Char :=
  match mode with
  | .ascii => ascii? b
  | .roman => if b = 0x5C then some '¥' else if b = 0x7E then some '\u203e' else ascii? b
  | .narrow =>
      if 0x21 ≤ b.toNat ∧ b.toNat ≤ 0x5F then some (Jis.narrow (b.toNat - 0x21)) else none
  | .double => none

/-- A pair, of which the first byte is known. An escape sequence is left to what follows. -/
def double (b : UInt8) (rest : List UInt8) : List Char × Nat :=
  match place b, rest with
  | none, _ | some _, [] => ([replacement], 0)
  | row@(some _), second :: _ =>
      if second = 0x1B then ([replacement], 0)
      else ([(Jis.inGrid? Jis.table row (place second)).getD replacement], 1)

def piece (s : State) (b : UInt8) (rest : List UInt8) : Piece State :=
  if b = 0x1B then
    match rest with
    | first :: second :: _ =>
        match escape? first second with
        | some mode => ⟨if s.fresh then [replacement] else [], 2, ⟨mode, true⟩⟩
        | none => ⟨[replacement], 0, ⟨s.mode, false⟩⟩
    | _ => ⟨[replacement], 0, ⟨s.mode, false⟩⟩
  else
    match s.mode with
    | .double =>
        let (cs, used) := double b rest
        ⟨cs, used, ⟨.double, false⟩⟩
    | mode => ⟨[(single? mode b).getD replacement], 0, ⟨mode, false⟩⟩

end Iso2022Jp

def decodeIso2022Jp : List UInt8 → List Char := decodePieces Iso2022Jp.piece ⟨.ascii, false⟩

example : decodeIso2022Jp [0x1B, 0x28, 0x4A, 0x5C, 0x1B, 0x28, 0x49, 0x21, 0x1B] =
    ['¥', '｡', replacement] := by decide +kernel

end LicenseChooser.Text
