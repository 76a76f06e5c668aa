-- The code page of names in archives that are not marked as UTF-8: ASCII, and
-- one character for each byte above it.

namespace AppBoundary.Text

/-- The characters of the bytes from 128 on. -/
def codePageHigh : String :=
  "ÇüéâäàåçêëèïîìÄÅÉæÆôöòûùÿÖÜ¢£¥₧ƒ"
    ++ "áíóúñÑªº¿⌐¬½¼¡«»░▒▓│┤╡╢╖╕╣║╗╝╜╛┐"
    ++ "└┴┬├─┼╞╟╚╔╩╦╠═╬╧╨╤╥╙╘╒╓╫╪┘┌█▄▌▐▀"
    ++ "αßΓπΣσµτΦΘΩδ∞φε∩≡±≥≤⌠⌡÷≈°∙·√ⁿ²■\u00a0"

/-- The text that bytes of the code page write. -/
def decodeCodePage (bytes : List UInt8) : String :=
  String.ofList (bytes.map fun b =>
    if b < 0x80 then Char.ofNat b.toNat else (codePageHigh.toList[b.toNat - 0x80]?).getD '\uFFFD')

end AppBoundary.Text
