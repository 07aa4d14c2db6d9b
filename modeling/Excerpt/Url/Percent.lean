import Excerpt.Text.Ascii
import Excerpt.Text.Utf8

/-! Percent-encoding of octets. -/
namespace Excerpt.Url

/-- The characters that a part of a URL does not show as they are, besides controls and all that is
not ASCII. -/
abbrev Reserved := List Char

namespace Reserved

def opaquePath : Reserved := []

def fragment : Reserved := [' ', '"', '<', '>', '\x60']

def query : Reserved := [' ', '"', '#', '<', '>']

def specialQuery : Reserved := query ++ ['\'']

def path : Reserved := fragment ++ ['#', '?', '\x7b', '\x7d']

def userinfo : Reserved := path ++ ['/', ':', ';', '=', '@', '[', '\\', ']', '^', '|']

/-- Reserved in a component of a file path, which may hold any octet. -/
def component : Reserved := path ++ ['/', '%', '\\']

end Reserved

def isPlain (reserved : Reserved) (b : UInt8) : Bool :=
  0x20 ≤ b && b < 0x7F && !reserved.contains (Char.ofNat b.toNat)

def encodeOctet (b : UInt8) : List Char :=
  ['%', Text.upperHex (b.toNat / 16), Text.upperHex (b.toNat % 16)]

def percentEncode (reserved : Reserved) (bytes : Bytes) : String :=
  String.ofList (bytes.flatMap fun b =>
    if isPlain reserved b then [Char.ofNat b.toNat] else encodeOctet b)

/-- Characters, where a percent sign and two digits stand for an octet, as octets. -/
def decodeChars : List Char → Bytes
  | [] => []
  | '%' :: rest =>
    match rest with
    | a :: b :: after =>
      match Text.hexValue? a, Text.hexValue? b with
      | some high, some low => UInt8.ofNat (high * 16 + low) :: decodeChars after
      | _, _ => 0x25 :: decodeChars (a :: b :: after)
    | rest => 0x25 :: decodeChars rest
  | c :: rest => String.utf8EncodeChar c ++ decodeChars rest

/-- The octets that a percent-encoded text stands for. A percent sign without two digits stands for
itself. -/
def percentDecode (s : String) : Bytes := decodeChars s.toList

end Excerpt.Url
