import Sparql.Text.CodeRange

/-!
Characters as bytes in UTF-8. A range of characters is cut into parts, such that the encodings of a
part are all sequences with one byte from each of a few ranges.
-/

namespace Sparql.Text

def utf8 (code : Nat) : List Nat :=
  if code < 0x80 then [code]
  else if code < 0x800 then [0xC0 + code / 64, 0x80 + code % 64]
  else if code < 0x10000 then [0xE0 + code / 4096, 0x80 + code / 64 % 64, 0x80 + code % 64]
  else
    [0xF0 + code / 262144, 0x80 + code / 4096 % 64, 0x80 + code / 64 % 64, 0x80 + code % 64]

example : utf8 'é'.toNat = [0xC3, 0xA9] := by decide

structure ByteRange where
  first : Nat
  last : Nat
  deriving DecidableEq, Repr

namespace CodeRange

/-- Cut a range before each of the bounds, which grow. -/
def cutBefore : (bounds : List Nat) → CodeRange → List CodeRange
  | [], range => [range]
  | bound :: bounds, range =>
    if range.first < bound && bound ≤ range.last then
      ⟨range.first, bound - 1⟩ :: cutBefore bounds ⟨bound, range.last⟩
    else cutBefore bounds range

/-- Cut a range into what lies in one block, and whole blocks between. Each size of blocks divides
the next one. -/
def cutBlocks : (sizes : List Nat) → CodeRange → List CodeRange
  | [], range => [range]
  | size :: sizes, range =>
    if range.first / size = range.last / size then [range]
    else
      let start := (range.first + size - 1) / size * size
      let stop := (range.last + 1) / size * size
      (if range.first < start then [⟨range.first, start - 1⟩] else []) ++
        (if start < stop then cutBlocks sizes ⟨start, stop - 1⟩ else []) ++
        (if stop ≤ range.last then [⟨stop, range.last⟩] else [])

/-- The parts of a range, in order. One byte encodes 7 bits of a character, and each byte after the
first encodes 6. -/
def parts (range : CodeRange) : List CodeRange :=
  (range.cutBefore [0x80, 0x800, 0xD800, 0xE000, 0x10000]).flatMap fun part =>
    if part.last < 0x80 then [part]
    else if 0xD800 ≤ part.first && part.last ≤ 0xDFFF then []
    else part.cutBlocks [64, 4096, 262144]

/-- The sequences that encode the characters of a range. -/
def sequences (range : CodeRange) : List (List ByteRange) :=
  range.parts.map fun part => List.zipWith ByteRange.mk (utf8 part.first) (utf8 part.last)

example : sequences ⟨0x60, 0x9F⟩ = [[⟨0x60, 0x7F⟩], [⟨0xC2, 0xC2⟩, ⟨0x80, 0x9F⟩]] := by decide

example : sequences ⟨0x850, 0x8C0⟩ =
    [[⟨0xE0, 0xE0⟩, ⟨0xA1, 0xA1⟩, ⟨0x90, 0xBF⟩], [⟨0xE0, 0xE0⟩, ⟨0xA2, 0xA2⟩, ⟨0x80, 0xBF⟩],
     [⟨0xE0, 0xE0⟩, ⟨0xA3, 0xA3⟩, ⟨0x80, 0x80⟩]] := by decide

end CodeRange

end Sparql.Text
