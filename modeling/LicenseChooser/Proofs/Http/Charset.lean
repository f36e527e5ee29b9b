import LicenseChooser.Http.Charset

/-!
What the charset of a body cannot change. Most encodings read a byte below 80 as the character with
its number, and as nothing else. So they agree on a text up to where they differ, and a body of such
bytes is the same text whatever its content type says.
-/

namespace LicenseChooser

namespace Text

def asciiChar (b : UInt8) : Char := .ofNat b.toNat

/-- A byte below 80, but none of those that announce another reading of the bytes behind them. -/
structure IsPlain (b : UInt8) : Prop where
  isAscii : isAscii b = true
  unshifted : b ≠ 0x0E ∧ b ≠ 0x0F ∧ b ≠ 0x1B

theorem decodePieces_nil {σ : Type} (piece : σ → UInt8 → List UInt8 → Piece σ) (state : σ) :
    decodePieces piece state [] = [] := by
  rw [decodePieces]

theorem decodePieces_append {σ : Type} {piece : σ → UInt8 → List UInt8 → Piece σ} {state : σ}
    {front : List UInt8}
    (h : ∀ b ∈ front, ∀ rest, piece state b rest = ⟨[asciiChar b], 0, state⟩) (rest : List UInt8) :
    decodePieces piece state (front ++ rest) =
      front.map asciiChar ++ decodePieces piece state rest := by
  induction front with
  | nil => rfl
  | cons b front ih =>
      obtain ⟨hb, hfront⟩ := List.forall_mem_cons.1 h
      rw [List.cons_append, decodePieces, hb]
      exact congrArg (asciiChar b :: ·) (ih hfront)

theorem DoubleByte.piece_ascii (e : DoubleByte) {b : UInt8} (h : isAscii b = true)
    (rest : List UInt8) : e.piece b rest = ⟨[asciiChar b], 0, ()⟩ :=
  if_pos h

theorem Gb18030.piece_ascii {b : UInt8} (h : isAscii b = true) (rest : List UInt8) :
    Gb18030.piece b rest = ⟨[asciiChar b], 0, ()⟩ :=
  if_pos h

theorem EucJp.piece_ascii {b : UInt8} (h : isAscii b = true) (rest : List UInt8) :
    EucJp.piece b rest = ⟨[asciiChar b], 0, ()⟩ := by
  have hthree : b ≠ 0x8F := by
    rintro rfl
    exact absurd h (by decide)
  rw [EucJp.piece, if_neg hthree, doubleByte.piece_ascii h]

theorem Iso2022Jp.piece_plain {b : UInt8} (h : IsPlain b) (rest : List UInt8) :
    Iso2022Jp.piece ⟨.ascii, false⟩ b rest = ⟨[asciiChar b], 0, ⟨.ascii, false⟩⟩ := by
  obtain ⟨hascii, hlast, hfirst, hescape⟩ := h
  have hchar : single? .ascii b = some (asciiChar b) := if_pos ⟨hascii, hlast, hfirst⟩
  simp only [Iso2022Jp.piece, if_neg hescape, hchar, Option.getD_some]

theorem decodeUtf8_append {front : List UInt8} (h : ∀ b ∈ front, isAscii b = true)
    (rest : List UInt8) : decodeUtf8 (front ++ rest) = front.map asciiChar ++ decodeUtf8 rest := by
  induction front with
  | nil => rfl
  | cons b front ih =>
      obtain ⟨hb, hfront⟩ := List.forall_mem_cons.1 h
      rw [List.cons_append, decodeUtf8, if_pos (by simpa [isAscii] using hb), ih hfront]
      rfl

end Text

namespace Http

open Text

/-- Bytes are not read in units of two, and they are read. -/
def Charset.ReadsBytes : Charset → Prop
  | .utf16 _ | .undecoded => False
  | _ => True

/-- An encoding of bytes reads what is plain as it stands, whatever follows. -/
theorem Charset.decode_append {c : Charset} (hc : c.ReadsBytes) {front : List UInt8}
    (h : ∀ b ∈ front, IsPlain b) (rest : List UInt8) :
    c.decode (front ++ rest) = front.map asciiChar ++ c.decode rest := by
  have hascii : ∀ b ∈ front, isAscii b = true := fun b hb => (h b hb).isAscii
  cases c with
  | utf8 => exact decodeUtf8_append hascii rest
  | table high =>
      rw [decode, decodeSingle, decodeSingle, List.map_append]
      congr 1
      exact List.map_congr_left fun b hb => if_pos (hascii b hb)
  | userDefined =>
      rw [decode, decodeUserDefined, decodeUserDefined, List.map_append]
      congr 1
      exact List.map_congr_left fun b hb => congrArg Char.ofNat (if_pos (hascii b hb))
  | gb18030 => exact decodePieces_append (fun b hb => Gb18030.piece_ascii (hascii b hb)) rest
  | big5 => exact decodePieces_append (fun b hb => Text.big5.piece_ascii (hascii b hb)) rest
  | eucJp => exact decodePieces_append (fun b hb => EucJp.piece_ascii (hascii b hb)) rest
  | iso2022Jp => exact decodePieces_append (fun b hb => Iso2022Jp.piece_plain (h b hb)) rest
  | shiftJis => exact decodePieces_append (fun b hb => Text.shiftJis.piece_ascii (hascii b hb)) rest
  | eucKr => exact decodePieces_append (fun b hb => Text.eucKr.piece_ascii (hascii b hb)) rest
  | utf16 _ | undecoded => exact hc.elim

theorem Charset.decode_nil (c : Charset) : c.decode [] = [] := by
  cases c with
  | utf8 => rw [decode, decodeUtf8]
  | utf16 _ | table _ | userDefined | undecoded => rfl
  | gb18030 | big5 | eucJp | iso2022Jp | shiftJis | eucKr => exact decodePieces_nil _ _

theorem byteOrderMark?_eq_none {bytes : List UInt8} (h : ∀ b ∈ bytes.head?, IsPlain b) :
    byteOrderMark? bytes = none := by
  rw [byteOrderMark?.eq_def]
  split
  · exact absurd (h _ rfl).isAscii (by decide)
  · exact absurd (h _ rfl).isAscii (by decide)
  · exact absurd (h _ rfl).isAscii (by decide)
  · rfl

/-- The text of a body is the same in all encodings of bytes up to its first byte that is not plain. -/
theorem Response.text_append {r : Response} (hc : r.charset.ReadsBytes) {front rest : List UInt8}
    (hbody : r.body = front ++ rest) (hfront : front ≠ []) (h : ∀ b ∈ front, IsPlain b) :
    r.text = String.ofList (front.map asciiChar ++ r.charset.decode rest) := by
  have hmark : byteOrderMark? r.body = none := byteOrderMark?_eq_none fun b hb => by
    rw [hbody, List.head?_append, List.head?_eq_some_head hfront, Option.some_or] at hb
    obtain rfl := Option.some.inj hb
    exact h _ (List.head_mem hfront)
  simp only [text, hmark]
  rw [hbody, Charset.decode_append hc h]

theorem Response.text_plain {r : Response} (hc : r.charset.ReadsBytes)
    (h : ∀ b ∈ r.body, IsPlain b) : r.text = String.ofList (r.body.map asciiChar) := by
  have hmark : byteOrderMark? r.body = none :=
    byteOrderMark?_eq_none fun b hb => h b (List.mem_of_head? hb)
  have hdecode := Charset.decode_append hc h []
  rw [Charset.decode_nil, List.append_nil, List.append_nil] at hdecode
  simp only [text, hmark, hdecode]

end Http

end LicenseChooser
