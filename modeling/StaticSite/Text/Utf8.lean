/-!
# UTF-8

Bytes are read strictly: no overlong forms, no halves of pairs, nothing beyond the last code point.
-/

namespace StaticSite.Text

def encodeUtf8 (s : List Char) : List UInt8 := s.flatMap String.utf8EncodeChar

/-- Whether a byte can follow the first byte of a character. -/
def isContinuation (b : UInt8) : Bool := 0x80 ≤ b && b ≤ 0xBF

def low6 (b : UInt8) : Nat := b.toNat % 64

/-- Whether the second byte after a first one keeps the form shortest and the code point valid. -/
def acceptsSecond (first second : UInt8) : Bool :=
  isContinuation second
    && (first != 0xE0 || 0xA0 ≤ second) && (first != 0xED || second ≤ 0x9F)
    && (first != 0xF0 || 0x90 ≤ second) && (first != 0xF4 || second ≤ 0x8F)

def decodeUtf8? : List UInt8 → Option (List Char)
  | [] => some []
  | a :: s =>
    if a < 0x80 then (decodeUtf8? s).map (Char.ofNat a.toNat :: ·)
    else match s with
      | b :: s =>
        if 0xC2 ≤ a && a ≤ 0xDF && isContinuation b then
          (decodeUtf8? s).map (Char.ofNat (a.toNat % 32 * 64 + low6 b) :: ·)
        else match s with
          | c :: s =>
            if 0xE0 ≤ a && a ≤ 0xEF && acceptsSecond a b && isContinuation c then
              (decodeUtf8? s).map
                (Char.ofNat ((a.toNat % 16 * 64 + low6 b) * 64 + low6 c) :: ·)
            else match s with
              | d :: s =>
                if 0xF0 ≤ a && a ≤ 0xF4 && acceptsSecond a b && isContinuation c
                    && isContinuation d then
                  (decodeUtf8? s).map
                    (Char.ofNat (((a.toNat % 8 * 64 + low6 b) * 64 + low6 c) * 64 + low6 d) :: ·)
                else none
              | [] => none
          | [] => none
      | [] => none

end StaticSite.Text
