import Arbor.Text.Basic

/-!
# UTF-8

`Utf8.encode` gives the bytes of a code point. `Utf8.decodeWith` reads bytes back as code points:
every well-formed sequence gives its code point, and every maximal invalid part — a lead byte
with the continuation bytes that may follow it, cut short, or a byte that starts nothing — is
handed to a policy that says what stands for it. Encoded surrogates and overlong forms are
invalid, as the standard says.

Surrogates (`isSurrogate`) have no UTF-8 form.

Two policies are used: `decode` puts one U+FFFD for each invalid part, and `decodeEscaping` puts
the lone surrogate U+DC00 + `b` for each byte `b` of it, so that no byte is lost and the bytes can
be written back.
-/

set_option autoImplicit false

namespace Arbor

namespace Utf8

/-- Whether a byte continues a UTF-8 sequence. -/
def isContinuation (b : Nat) : Bool := 0x80 ≤ b && b ≤ 0xBF

/-- The code points of a byte sequence read as UTF-8, every maximal invalid part replaced by
what `bad` makes of its bytes. -/
def decodeWith (bad : List Nat → List Nat) : List Nat → List Nat
  | [] => []
  | b :: rest =>
    if b < 0x80 then b :: decodeWith bad rest
    else if 0xC2 ≤ b && b ≤ 0xDF then
      match _h1 : rest with
      | c :: rest1 =>
        if isContinuation c then ((b - 0xC0) * 64 + (c - 0x80)) :: decodeWith bad rest1
        else bad [b] ++ decodeWith bad rest
      | [] => bad [b]
    else if 0xE0 ≤ b && b ≤ 0xEF then
      let lo := if b == 0xE0 then 0xA0 else 0x80
      let hi := if b == 0xED then 0x9F else 0xBF
      match _h1 : rest with
      | c1 :: rest1 =>
        if lo ≤ c1 && c1 ≤ hi then
          match _h2 : rest1 with
          | c2 :: rest2 =>
            if isContinuation c2 then
              ((b - 0xE0) * 4096 + (c1 - 0x80) * 64 + (c2 - 0x80)) :: decodeWith bad rest2
            else bad [b, c1] ++ decodeWith bad rest1
          | [] => bad [b, c1]
        else bad [b] ++ decodeWith bad rest
      | [] => bad [b]
    else if 0xF0 ≤ b && b ≤ 0xF4 then
      let lo := if b == 0xF0 then 0x90 else 0x80
      let hi := if b == 0xF4 then 0x8F else 0xBF
      match _h1 : rest with
      | c1 :: rest1 =>
        if lo ≤ c1 && c1 ≤ hi then
          match _h2 : rest1 with
          | c2 :: rest2 =>
            if isContinuation c2 then
              match _h3 : rest2 with
              | c3 :: rest3 =>
                if isContinuation c3 then
                  ((b - 0xF0) * 262144 + (c1 - 0x80) * 4096 + (c2 - 0x80) * 64 + (c3 - 0x80)) ::
                    decodeWith bad rest3
                else bad [b, c1, c2] ++ decodeWith bad rest2
              | [] => bad [b, c1, c2]
            else bad [b, c1] ++ decodeWith bad rest1
          | [] => bad [b, c1]
        else bad [b] ++ decodeWith bad rest
      | [] => bad [b]
    else bad [b] ++ decodeWith bad rest
termination_by l => l.length
decreasing_by all_goals simp_all <;> omega

/-- The code points of a byte sequence read as UTF-8, every maximal invalid part replaced by
U+FFFD. -/
def decode (b : List Nat) : List Nat := decodeWith (fun _ => [0xFFFD]) b

/-- The code points of a byte sequence read as UTF-8, every byte of an invalid part kept as the
lone surrogate U+DC00 + byte. -/
def decodeEscaping (b : List Nat) : List Nat := decodeWith (List.map (0xDC00 + ·)) b

/-- Whether a code point is a surrogate, which UTF-8 cannot write. -/
def isSurrogate (c : Nat) : Bool := 0xD800 ≤ c && c ≤ 0xDFFF

/-- The bytes of a code point in UTF-8. -/
def encode (c : Nat) : List Nat :=
  if c < 0x80 then [c]
  else if c < 0x800 then [0xC0 + c / 64, 0x80 + c % 64]
  else if c < 0x10000 then [0xE0 + c / 4096, 0x80 + c / 64 % 64, 0x80 + c % 64]
  else [0xF0 + c / 262144, 0x80 + c / 4096 % 64, 0x80 + c / 64 % 64, 0x80 + c % 64]

example : decode [0x61, 0xC3, 0xA9] = [0x61, 0xE9] := by
  simp [decode, decodeWith, isContinuation]

example : decode [0xE2, 0x82, 0x61] = [0xFFFD, 0x61] := by
  simp [decode, decodeWith, isContinuation]

example : decodeEscaping [0xE2, 0x82, 0x61] = [0xDCE2, 0xDC82, 0x61] := by
  simp [decodeEscaping, decodeWith, isContinuation]

example : decodeEscaping [0xED, 0xA0, 0x80] = [0xDCED, 0xDCA0, 0xDC80] := by
  simp [decodeEscaping, decodeWith]

end Utf8

end Arbor
