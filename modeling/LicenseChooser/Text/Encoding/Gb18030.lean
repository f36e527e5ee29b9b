import LicenseChooser.Text.Encoding.DoubleByte
import LicenseChooser.Text.Encoding.Gb18030Data
import LicenseChooser.Text.Table

/-!
GB 18030, and GBK with it. Two bytes stand for a character of a table or for one that is left to
users; four bytes count through all other characters in order.
-/

namespace LicenseChooser.Text

namespace Gb18030

def table : Array Char := ofRows gb18030Rows

/-- The character that is left to users at a pair of bytes: there are three areas of them. -/
def userChar? (first second : Nat) : Option Char :=
  if 0xAA ≤ first ∧ first ≤ 0xAF ∧ 0xA1 ≤ second then
    some (.ofNat (0xE000 + (first - 0xAA) * 94 + (second - 0xA1)))
  else if 0xF8 ≤ first ∧ 0xA1 ≤ second then
    some (.ofNat (0xE234 + (first - 0xF8) * 94 + (second - 0xA1)))
  else if 0xA1 ≤ first ∧ first ≤ 0xA7 then
    (place? [(0x40, 0x7E), (0x80, 0xA0)] second).map fun cell =>
      .ofNat (0xE4C6 + (first - 0xA1) * 96 + cell)
  else none

def pair? (first second : Nat) : Option Char := do
  let cell ← place? [(0x40, 0x7E), (0x80, 0xFE)] second
  charAt? table ((first - 0x81) * 190 + cell) <|> userChar? first second

def runs : List (List Nat) := readTable gb18030Runs

/-- The character that four bytes count to. One of them stands outside of the order. -/
def counted? (n : Nat) : Option Char :=
  if n = 7457 then some '\ue7c7'
  else if (39419 < n ∧ n < 189000) ∨ 1237575 < n then none
  else
    (runs.findRev? fun run => run.headD 0 ≤ n).bind fun
      | [first, char] => some (.ofNat (char + (n - first)))
      | _ => none

def isDigit (b : UInt8) : Bool := 0x30 ≤ b.toNat && b.toNat ≤ 0x39

def begins (b : UInt8) : Bool := 0x81 ≤ b.toNat && b.toNat ≤ 0xFE

/-- A piece of four bytes, of which the first two are known. -/
def fourBytes (first second : Nat) : List UInt8 → SimplePiece
  | [] => .broken 1
  | third :: rest =>
      if begins third then
        match rest with
        | [] => .broken 2
        | fourth :: _ =>
            if isDigit fourth then
              match counted? ((((first - 0x81) * 10 + (second - 0x30)) * 126 +
                  (third.toNat - 0x81)) * 10 + (fourth.toNat - 0x30)) with
              | some c => ⟨[c], 3, ()⟩
              | none => .broken 3
            else .broken 0
      else .broken 0

def piece (b : UInt8) (rest : List UInt8) : SimplePiece :=
  if isAscii b then .char (.ofNat b.toNat)
  else if b = 0x80 then .char '€'
  else if begins b then
    match rest with
    | [] => .broken 0
    | second :: rest =>
        if isDigit second then fourBytes b.toNat second.toNat rest
        else
          match pair? b.toNat second.toNat with
          | some c => ⟨[c], 1, ()⟩
          | none => .brokenAt 0 second
  else .broken 0

end Gb18030

def decodeGb18030 : List UInt8 → List Char := decodePieces (fun _ => Gb18030.piece) ()

end LicenseChooser.Text
