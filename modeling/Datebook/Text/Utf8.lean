/-!
UTF-8.

`utf8Encode` and `utf8Decode` convert between characters and octets. Decoding refuses the first
malformed character: a `Utf8Error` gives its index and how many octets from there cannot begin any
character, or no count when the octets merely stop too early.
-/

set_option autoImplicit false

namespace Datebook

/-- A sequence of octets. -/
abbrev Bytes := List UInt8

namespace Text

/-- Where decoding stopped, and the number of wrong octets unless the character is only cut off. -/
structure Utf8Error where
  index : Nat
  wrong : Option Nat
  deriving DecidableEq, Repr

def Utf8Error.message (e : Utf8Error) : String :=
  match e.wrong with
  | some count =>
    "invalid utf-8 sequence of " ++ toString count ++ " bytes from index " ++ toString e.index
  | none => "incomplete utf-8 byte sequence from index " ++ toString e.index

/-- The octet that carries six bits after the first octet of a character. -/
def continuation (bits : Nat) : UInt8 :=
  UInt8.ofNat (0x80 + bits % 64)

/-- The octets of a character: one to four of them, the fewest that hold its code point. -/
def utf8EncodeChar (c : Char) : Bytes :=
  let n := c.toNat
  if n < 0x80 then [UInt8.ofNat n]
  else if n < 0x800 then [UInt8.ofNat (0xc0 + n / 64), continuation n]
  else if n < 0x10000 then
    [UInt8.ofNat (0xe0 + n / 4096), continuation (n / 64), continuation n]
  else
    [UInt8.ofNat (0xf0 + n / 262144), continuation (n / 4096), continuation (n / 64),
      continuation n]

def utf8Encode (text : List Char) : Bytes :=
  text.flatMap utf8EncodeChar

def isContinuation (b : UInt8) : Bool :=
  0x80 ≤ b && b ≤ 0xbf

/-- The six bits of a continuation octet. -/
def payload (b : UInt8) : Nat :=
  b.toNat % 64

/-- The second octets that may follow the first octet of a three-octet character. -/
def isSecondOfThree (first second : UInt8) : Bool :=
  if first = 0xe0 then 0xa0 ≤ second && second ≤ 0xbf
  else if first = 0xed then 0x80 ≤ second && second ≤ 0x9f
  else isContinuation second

/-- The second octets that may follow the first octet of a four-octet character. -/
def isSecondOfFour (first second : UInt8) : Bool :=
  if first = 0xf0 then 0x90 ≤ second && second ≤ 0xbf
  else if first = 0xf4 then 0x80 ≤ second && second ≤ 0x8f
  else isContinuation second

/-- The characters of a sequence of octets that begins at an index of its text. -/
def utf8DecodeFrom (index : Nat) : Bytes → Except Utf8Error (List Char)
  | [] => .ok []
  | a :: rest =>
    if a < 0x80 then
      (utf8DecodeFrom (index + 1) rest).map (Char.ofNat a.toNat :: ·)
    else if 0xc2 ≤ a ∧ a ≤ 0xdf then
      match rest with
      | [] => .error ⟨index, none⟩
      | b :: rest =>
        if !isContinuation b then .error ⟨index, some 1⟩
        else (utf8DecodeFrom (index + 2) rest).map
          (Char.ofNat ((a.toNat - 0xc0) * 64 + payload b) :: ·)
    else if 0xe0 ≤ a ∧ a ≤ 0xef then
      match rest with
      | [] => .error ⟨index, none⟩
      | b :: rest =>
        if !isSecondOfThree a b then .error ⟨index, some 1⟩
        else match rest with
          | [] => .error ⟨index, none⟩
          | c :: rest =>
            if !isContinuation c then .error ⟨index, some 2⟩
            else (utf8DecodeFrom (index + 3) rest).map
              (Char.ofNat ((a.toNat - 0xe0) * 4096 + payload b * 64 + payload c) :: ·)
    else if 0xf0 ≤ a ∧ a ≤ 0xf4 then
      match rest with
      | [] => .error ⟨index, none⟩
      | b :: rest =>
        if !isSecondOfFour a b then .error ⟨index, some 1⟩
        else match rest with
          | [] => .error ⟨index, none⟩
          | c :: rest =>
            if !isContinuation c then .error ⟨index, some 2⟩
            else match rest with
              | [] => .error ⟨index, none⟩
              | d :: rest =>
                if !isContinuation d then .error ⟨index, some 3⟩
                else (utf8DecodeFrom (index + 4) rest).map
                  (Char.ofNat ((a.toNat - 0xf0) * 262144 + payload b * 4096 + payload c * 64
                    + payload d) :: ·)
    else .error ⟨index, some 1⟩

def utf8Decode (bytes : Bytes) : Except Utf8Error (List Char) :=
  utf8DecodeFrom 0 bytes

end Text

end Datebook
