import NamespaceLifecycle.Text.Basic
import NamespaceLifecycle.Text.Utf8

/-!
# Percent escapes

A character that may not stand in an address is written by the bytes of its UTF-8 form, each as a
percent sign and two capital digits of base sixteen. Reading back replaces every such triple by its
byte and keeps any other percent sign, so it never fails; the bytes need not be a text.
-/

namespace NamespaceLifecycle.Text.Percent

def escapeByte (byte : UInt8) : List Char :=
  ['%', upperHexDigit (byte.toNat / 16), upperHexDigit (byte.toNat % 16)]

/-- A character as it is when it may stand, and by its bytes otherwise. -/
def encodeChar (mayStand : Char → Bool) (c : Char) : List Char :=
  if mayStand c then [c] else (String.utf8EncodeChar c).flatMap escapeByte

/-- A text with every character that may not stand escaped. -/
def encodeChars (mayStand : Char → Bool) (chars : List Char) : List Char :=
  chars.flatMap (encodeChar mayStand)

def encode (mayStand : Char → Bool) (text : String) : String :=
  String.ofList (encodeChars mayStand text.toList)

def hexByte? (byte : UInt8) : Option Nat :=
  hexDigit? (Char.ofNat byte.toNat)

/-- Every triple of a percent sign and two digits is replaced by its byte. -/
def unescape : List UInt8 → List UInt8
  | [] => []
  | byte :: first :: second :: rest =>
    if byte = 0x25 then
      match hexByte? first, hexByte? second with
      | some high, some low => UInt8.ofNat (high * 16 + low) :: unescape rest
      | _, _ => byte :: unescape (first :: second :: rest)
    else byte :: unescape (first :: second :: rest)
  | byte :: rest => byte :: unescape rest

/-- The bytes that a text with escapes stands for. -/
def decode (text : String) : List UInt8 :=
  unescape (Utf8.bytes text)

/-- Letters and digits of ASCII and the four marks that never need an escape. -/
def isUnreserved (c : Char) : Bool :=
  c.isAlphanum || c == '-' || c == '_' || c == '.' || c == '~'

end NamespaceLifecycle.Text.Percent
