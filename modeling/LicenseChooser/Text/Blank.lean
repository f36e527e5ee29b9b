/-!
White space in the sense of Unicode's `White_Space` property, and trimming by it. Every reader of
the library that calls a value blank or trimmed means these two functions.
-/

namespace LicenseChooser.Text

/-- The characters with the property `White_Space`. -/
def isBlank (c : Char) : Bool :=
  (9 ≤ c.toNat && c.toNat ≤ 13) || c.toNat == 0x20 || c.toNat == 0x85 || c.toNat == 0xA0 ||
    c.toNat == 0x1680 || (0x2000 ≤ c.toNat && c.toNat ≤ 0x200A) || c.toNat == 0x2028 ||
    c.toNat == 0x2029 || c.toNat == 0x202F || c.toNat == 0x205F || c.toNat == 0x3000

/-- A text without a character that is not white space; the empty text is one. -/
def allBlank (cs : List Char) : Bool := cs.all isBlank

/-- Leading and trailing white space removed. -/
def trimChars (cs : List Char) : List Char :=
  ((cs.dropWhile isBlank).reverse.dropWhile isBlank).reverse

def trim (s : String) : String := String.ofList (trimChars s.toList)

/-- The size of a text in UTF-8, in which the readers count positions. -/
def byteLength : List Char → Nat
  | [] => 0
  | c :: rest => c.utf8Size + byteLength rest

theorem toList_trim (s : String) : (trim s).toList = trimChars s.toList := by simp [trim]

end LicenseChooser.Text
