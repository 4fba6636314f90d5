import LogPattern.CodePoint.Set

/-!
# Byte sequences of code point ranges

In UTF-8 a range of code points is a short list of sequences of byte ranges.  The
sequences are in increasing order, as the code points are.
-/

namespace LogPattern

/-- A range of bytes with both ends included. -/
abbrev ByteRange := Nat × Nat

/--
The sequences for the values `low … high` of a unit with `more` continuation bytes
of six bits each after its first byte, which adds `base` to its own bits.
-/
def byteSequences : (more : Nat) → (base low high : Nat) → List (List ByteRange)
  | 0, base, low, high => [[(base + low, base + high)]]
  | more + 1, base, low, high =>
      let block := Nat.pow 64 (more + 1)
      let first := low / block
      let last := high / block
      if first = last then
        (byteSequences more 0x80 (low % block) (high % block)).map
          ((base + first, base + first) :: ·)
      else
        let aligned := low % block = 0
        let full := high % block = block - 1
        let front :=
          if aligned then []
          else (byteSequences more 0x80 (low % block) (block - 1)).map
            ((base + first, base + first) :: ·)
        let back :=
          if full then []
          else (byteSequences more 0x80 0 (high % block)).map ((base + last, base + last) :: ·)
        let from_ := if aligned then first else first + 1
        let until_ := if full then last + 1 else last
        let middle :=
          if from_ < until_ then
            [(base + from_, base + (until_ - 1)) :: List.replicate (more + 1) (0x80, 0xBF)]
          else []
        front ++ middle ++ back

/--
The code points with the same number of bytes: first and last, the number of
continuation bytes, and what the first byte adds.  Surrogates are left out.
-/
def byteLengthClasses : List (Nat × Nat × Nat × Nat) := [
  (0, 0x7F, 0, 0),
  (0x80, 0x7FF, 1, 0xC0),
  (0x800, 0xD7FF, 2, 0xE0),
  (0xE000, 0xFFFF, 2, 0xE0),
  (0x10000, 0x10FFFF, 3, 0xF0)]

def rangeSequences (low high : Nat) : List (List ByteRange) :=
  byteLengthClasses.flatMap fun (first, last, more, base) =>
    let from_ := max low first
    let to_ := min high last
    if from_ ≤ to_ then byteSequences more base from_ to_ else []

def CodeSet.byteSequences (set : CodeSet) : List (List ByteRange) :=
  set.ranges.flatMap fun r => rangeSequences r.1 r.2

def byteLength (code : Nat) : Nat :=
  if code ≤ 0x7F then 1 else if code ≤ 0x7FF then 2 else if code ≤ 0xFFFF then 3 else 4

end LogPattern
