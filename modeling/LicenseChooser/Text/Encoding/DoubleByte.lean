import LicenseChooser.Text.Encoding.Big5Data
import LicenseChooser.Text.Encoding.EucKrData
import LicenseChooser.Text.Utf8

/-!
Encodings of more than one byte for a character. Bytes are read in pieces: the first byte of a piece
says which of those behind it can belong to it. Where they do not, the piece is one U+FFFD, and it
takes no byte below 80 along that could stand for itself.
-/

namespace LicenseChooser.Text

/-- What a byte begins: characters, how many of the bytes behind it belong to them, and what the rest
is read with. -/
structure Piece (σ : Type) where
  chars : List Char
  used : Nat
  next : σ

def decodePieces {σ : Type} (piece : σ → UInt8 → List UInt8 → Piece σ) (state : σ)
    (bytes : List UInt8) : List Char :=
  match bytes with
  | [] => []
  | b :: rest =>
      let p := piece state b rest
      p.chars ++ decodePieces piece p.next (rest.drop p.used)
  termination_by bytes.length
  decreasing_by
    simp only [List.length_drop, List.length_cons]
    omega

/-- A piece of an encoding without states. -/
abbrev SimplePiece := Piece Unit

namespace SimplePiece

def char (c : Char) : SimplePiece := ⟨[c], 0, ()⟩

/-- A piece that takes `used` bytes along and stands for nothing. -/
def broken (used : Nat) : SimplePiece := ⟨[replacement], used, ()⟩

/-- A piece of `used` bytes behind the first that ought to go on with `byte`. -/
def brokenAt (used : Nat) (byte : UInt8) : SimplePiece :=
  broken (if byte.toNat < 0x80 then used else used + 1)

end SimplePiece

def isAscii (b : UInt8) : Bool := b.toNat < 0x80

/-- The place of a number in ranges that follow each other. -/
def place? (ranges : List (Nat × Nat)) (n : Nat) : Option Nat :=
  match ranges with
  | [] => none
  | (first, last) :: rest =>
      if first ≤ n ∧ n ≤ last then some (n - first)
      else (place? rest n).map (· + (last + 1 - first))

def ofRows (rows : List String) : Array Char := (rows.flatMap String.toList).toArray

/-- The character at a place of a table. A dot stands for none. -/
def charAt? (table : Array Char) (place : Nat) : Option Char := table[place]?.filter (· != '.')

/-- An encoding of one or two bytes: what single bytes from 80 on stand for, which bytes begin a pair,
and what pairs stand for. -/
structure DoubleByte where
  single? : UInt8 → Option Char
  begins : UInt8 → Bool
  pair? : UInt8 → UInt8 → Option (List Char)

def DoubleByte.piece (e : DoubleByte) (b : UInt8) (rest : List UInt8) : SimplePiece :=
  if isAscii b then .char (.ofNat b.toNat)
  else
    match e.single? b with
    | some c => .char c
    | none =>
        if e.begins b then
          match rest with
          | [] => .broken 0
          | second :: _ =>
              match e.pair? b second with
              | some cs => ⟨cs, 1, ()⟩
              | none => .brokenAt 0 second
        else .broken 0

def DoubleByte.decode (e : DoubleByte) : List UInt8 → List Char :=
  decodePieces (fun _ => e.piece) ()

def big5Table : Array Char := ofRows big5Rows

/-- Four pairs stand for two characters each. -/
def big5Chars? (place : Nat) : Option (List Char) :=
  match place with
  | 1133 => some ['\u00ca', '\u0304']
  | 1135 => some ['\u00ca', '\u030c']
  | 1164 => some ['\u00ea', '\u0304']
  | 1166 => some ['\u00ea', '\u030c']
  | _ => if place < 942 then none else (charAt? big5Table (place - 942)).map ([·])

def big5 : DoubleByte where
  single? _ := none
  begins b := 0x81 ≤ b.toNat && b.toNat ≤ 0xFE
  pair? first second := do
    let cell ← place? [(0x40, 0x7E), (0xA1, 0xFE)] second.toNat
    big5Chars? ((first.toNat - 0x81) * 157 + cell)

def eucKrTable : Array Char := ofRows eucKrRows

def eucKr : DoubleByte where
  single? _ := none
  begins b := 0x81 ≤ b.toNat && b.toNat ≤ 0xFE
  pair? first second := do
    let cell ← place? [(0x41, 0xFE)] second.toNat
    (charAt? eucKrTable ((first.toNat - 0x81) * 190 + cell)).map ([·])

end LicenseChooser.Text
