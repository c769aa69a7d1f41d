import RouteMatch.Text.Hexadecimal
import RouteMatch.Text.Utf8

/-!
# Percent-decoding

A percent sign with two hexadecimal digits after it stands for a byte, and the
bytes of a text are read as UTF-8.  A percent sign without two digits stands for
itself.  Characters outside ASCII are not bytes: they stay, and they end a
sequence of bytes.

## Main definitions

* `rawText` — a text as bytes and characters.
* `percentDecode` — the decoded text.
-/

namespace RouteMatch.Text

/-- One character outside an escape: a byte if it is ASCII. -/
def rawChar (c : Char) : Utf8.Raw :=
  if c.toNat < 0x80 then .byte c.toNat else .char c

/-- A text as the bytes and characters that it spells. -/
def rawText : List Char → List Utf8.Raw
  | [] => []
  | '%' :: a :: b :: rest =>
    match hexValue? a, hexValue? b with
    | some high, some low => .byte (16 * high + low) :: rawText rest
    | _, _ => rawChar '%' :: rawText (a :: b :: rest)
  | c :: rest => rawChar c :: rawText rest

/-- The characters that a percent-encoded text stands for. -/
def percentDecodeChars (text : List Char) : List Char :=
  Utf8.decode none (rawText text)

/-- The text that a percent-encoded text stands for. -/
def percentDecode (text : String) : String :=
  String.ofList (percentDecodeChars text.toList)

end RouteMatch.Text
