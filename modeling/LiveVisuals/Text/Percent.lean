import LiveVisuals.Decimal.Numeral

/-!
# Percent encoding

In addresses of requests a percent sign and two hexadecimal digits stand for a byte; the bytes
together are text in UTF-8.

Main definitions:

- {lit}`Text.percentBytes?`: the bytes that an encoded text stands for.
- {lit}`Text.percentDecode?`: the text that it stands for.
-/

namespace LiveVisuals.Text

/-- The bytes of a character. -/
def charBytes (c : Char) : List UInt8 := c.toString.toUTF8.toList

/-- The bytes that an encoded text stands for; a percent sign needs two digits. -/
def percentBytes? : List Char → Option (List UInt8)
  | [] => some []
  | '%' :: a :: b :: rest => do
      let high ← Numeral.digitValue? 16 a
      let low ← Numeral.digitValue? 16 b
      let bytes ← percentBytes? rest
      some (UInt8.ofNat (high * 16 + low) :: bytes)
  | c :: rest =>
      if c = '%' then none else (percentBytes? rest).map (charBytes c ++ ·)

/-- The text that an encoded text stands for. -/
def percentDecode? (cs : List Char) : Option String :=
  (percentBytes? cs).bind fun bytes => String.fromUTF8? ⟨bytes.toArray⟩

end LiveVisuals.Text
