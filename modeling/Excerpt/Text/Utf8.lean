/-! UTF-8: texts as octets, and octets as texts. -/
namespace Excerpt

abbrev Bytes := List UInt8

namespace Text

def utf8 (s : String) : Bytes := s.toList.flatMap String.utf8EncodeChar

/-- Whether an octet goes on with a sequence. -/
def isTrail (b : UInt8) : Bool := 0x80 ≤ b && b ≤ 0xBF

/-- Whether `second` may follow `lead` at the start of a sequence of three or four octets: it may
not spell a value that a shorter sequence has, a surrogate, or a value past the last code point. -/
def isSecond (lead second : UInt8) : Bool :=
  match lead with
  | 0xE0 => 0xA0 ≤ second && second ≤ 0xBF
  | 0xED => 0x80 ≤ second && second ≤ 0x9F
  | 0xF0 => 0x90 ≤ second && second ≤ 0xBF
  | 0xF4 => 0x80 ≤ second && second ≤ 0x8F
  | _ => isTrail second

def trailBits (b : UInt8) : Nat := b.toNat % 64

/-- The characters that some octets spell. Each longest start of a sequence that is never completed,
and each octet that starts none, gives none. -/
def scalars : Bytes → List (Option Char)
  | [] => []
  | b :: r =>
    if b < 0x80 then some (Char.ofNat b.toNat) :: scalars r
    else if 0xC2 ≤ b && b ≤ 0xDF then
      match r with
      | [] => [none]
      | b₁ :: r₁ =>
        if isTrail b₁ then some (Char.ofNat (b.toNat % 32 * 64 + trailBits b₁)) :: scalars r₁
        else none :: scalars (b₁ :: r₁)
    else if 0xE0 ≤ b && b ≤ 0xEF then
      match r with
      | [] => [none]
      | b₁ :: r₁ =>
        if isSecond b b₁ then
          match r₁ with
          | [] => [none]
          | b₂ :: r₂ =>
            if isTrail b₂ then
              some (Char.ofNat ((b.toNat % 16 * 64 + trailBits b₁) * 64 + trailBits b₂)) ::
                scalars r₂
            else none :: scalars (b₂ :: r₂)
        else none :: scalars (b₁ :: r₁)
    else if 0xF0 ≤ b && b ≤ 0xF4 then
      match r with
      | [] => [none]
      | b₁ :: r₁ =>
        if isSecond b b₁ then
          match r₁ with
          | [] => [none]
          | b₂ :: r₂ =>
            if isTrail b₂ then
              match r₂ with
              | [] => [none]
              | b₃ :: r₃ =>
                if isTrail b₃ then
                  some (Char.ofNat (((b.toNat % 8 * 64 + trailBits b₁) * 64 + trailBits b₂) * 64
                    + trailBits b₃)) :: scalars r₃
                else none :: scalars (b₃ :: r₃)
            else none :: scalars (b₂ :: r₂)
        else none :: scalars (b₁ :: r₁)
    else none :: scalars r

def ofUtf8? (bytes : Bytes) : Option String :=
  ((scalars bytes).mapM id).map String.ofList

/-- The text that some octets spell, with U+FFFD for what is not valid. -/
def ofUtf8Lossy (bytes : Bytes) : String :=
  String.ofList ((scalars bytes).map (·.getD '\uFFFD'))

end Text

end Excerpt
