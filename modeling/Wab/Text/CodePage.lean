import Wab.Text.Utf8

/-!
# Code page 437

The single-byte character set in which file names of zip archives are written unless they are marked
as UTF-8: its lower half is ASCII.
-/

namespace Wab.CodePage

/-- The characters of the bytes 80 to FF. -/
def upperHalf : Text :=
  "ÇüéâäàåçêëèïîìÄÅÉæÆôöòûùÿÖÜ¢£¥₧ƒ" ++
  "áíóúñÑªº¿⌐¬½¼¡«»░▒▓│┤╡╢╖╕╣║╗╝╜╛┐" ++
  "└┴┬├─┼╞╟╚╔╩╦╠═╬╧╨╤╥╙╘╒╓╫╪┘┌█▄▌▐▀" ++
  "αßΓπΣσµτΦΘΩδ∞φε∩≡±≥≤⌠⌡÷≈°∙·√ⁿ²■\u00a0"

/-- The character of a byte. -/
def character (byte : UInt8) : CodePoint :=
  if byte.toNat < 0x80 then Char.ofNat byte.toNat
  else (upperHalf[byte.toNat - 0x80]?).getD '\uFFFD'

/-- The text of a byte sequence. -/
def decode (bytes : Bytes) : Text := bytes.map character

end Wab.CodePage
