/-!
UTF-8. Decoding never fails: each maximal run of bytes that begins no character becomes U+FFFD.
-/

namespace LicenseChooser.Text

/-- The character that stands for bytes that are no text. -/
def replacement : Char := '\uFFFD'

def encodeCharUtf8 (c : Char) : List UInt8 :=
  let n := c.toNat
  let tail (unit : Nat) : UInt8 := .ofNat (0x80 + n / unit % 64)
  if n < 0x80 then [.ofNat n]
  else if n < 0x800 then [.ofNat (0xC0 + n / 0x40), tail 1]
  else if n < 0x10000 then [.ofNat (0xE0 + n / 0x1000), tail 0x40, tail 1]
  else [.ofNat (0xF0 + n / 0x40000), tail 0x1000, tail 0x40, tail 1]

def encodeUtf8 (cs : List Char) : List UInt8 := cs.flatMap encodeCharUtf8

/-- What a lead byte announces: how many bytes follow, its own bits, and the range of the next
byte, which is narrower where it excludes overlong forms, surrogates and numbers past the last. -/
structure Lead where
  following : Nat
  bits : Nat
  low : Nat
  high : Nat

def lead? (byte : Nat) : Option Lead :=
  if 0xC2 ≤ byte ∧ byte ≤ 0xDF then some ⟨1, byte - 0xC0, 0x80, 0xBF⟩
  else if 0xE0 ≤ byte ∧ byte ≤ 0xEF then
    some ⟨2, byte - 0xE0, if byte = 0xE0 then 0xA0 else 0x80, if byte = 0xED then 0x9F else 0xBF⟩
  else if 0xF0 ≤ byte ∧ byte ≤ 0xF4 then
    some ⟨3, byte - 0xF0, if byte = 0xF0 then 0x90 else 0x80, if byte = 0xF4 then 0x8F else 0xBF⟩
  else none

/-- Reads the bytes after a lead byte, as far as they belong to it. -/
def readTail (following bits low high : Nat) (bytes : List UInt8) : Option Char × List UInt8 :=
  match following, bytes with
  | 0, rest => (some (.ofNat bits), rest)
  | _ + 1, [] => (none, [])
  | k + 1, b :: rest =>
      if low ≤ b.toNat ∧ b.toNat ≤ high then
        readTail k (bits * 64 + (b.toNat - 0x80)) 0x80 0xBF rest
      else (none, b :: rest)

theorem length_readTail (following bits low high : Nat) (bytes : List UInt8) :
    (readTail following bits low high bytes).2.length ≤ bytes.length := by
  induction following generalizing bits low high bytes with
  | zero => simp [readTail]
  | succ k ih =>
      cases bytes with
      | nil => simp [readTail]
      | cons b rest =>
          simp only [readTail]
          split
          · exact Nat.le_succ_of_le (ih ..)
          · simp

def decodeUtf8 (bytes : List UInt8) : List Char :=
  match bytes with
  | [] => []
  | b :: rest =>
      if b.toNat < 0x80 then .ofNat b.toNat :: decodeUtf8 rest
      else
        match lead? b.toNat with
        | none => replacement :: decodeUtf8 rest
        | some l =>
            let tail := readTail l.following l.bits l.low l.high rest
            tail.1.getD replacement :: decodeUtf8 tail.2
  termination_by bytes.length
  decreasing_by
    · simp
    · simp
    · have := length_readTail l.following l.bits l.low l.high rest
      simp only [List.length_cons]
      omega

/-- The text that bytes encode, unless they encode none. -/
def readUtf8? (bytes : List UInt8) : Option (List Char) :=
  let cs := decodeUtf8 bytes
  if encodeUtf8 cs = bytes then some cs else none

end LicenseChooser.Text
