/-!
# Texts as bytes

A text and its bytes in UTF-8. Bytes that are no text are described by the place of the first
fault: either a sequence that nothing can complete, of one to three bytes, or a sequence that the
end of the bytes cuts short. A lenient reading puts one replacement character for each of them.
-/

namespace NamespaceLifecycle.Text.Utf8

def bytes (text : String) : List UInt8 :=
  text.toList.flatMap String.utf8EncodeChar

def text? (bytes : List UInt8) : Option String :=
  String.fromUTF8? bytes.toByteArray

/-- The first place where bytes are not well formed: how many bytes stand before it, and how many
bytes make up the fault; no number when the end of the bytes cuts the sequence short. -/
structure Fault where
  index : Nat
  length : Option Nat
  deriving DecidableEq, Repr

/-- What may follow a first byte of a sequence: the number of further bytes and the bounds of the
second one. The bounds of the later ones are always those of a continuation byte. -/
structure Lead where
  further : Nat
  low : Nat
  high : Nat

def lead? (byte : UInt8) : Option Lead :=
  let n := byte.toNat
  if 0xc2 ≤ n ∧ n ≤ 0xdf then some ⟨1, 0x80, 0xbf⟩
  else if n = 0xe0 then some ⟨2, 0xa0, 0xbf⟩
  else if n = 0xed then some ⟨2, 0x80, 0x9f⟩
  else if 0xe1 ≤ n ∧ n ≤ 0xef then some ⟨2, 0x80, 0xbf⟩
  else if n = 0xf0 then some ⟨3, 0x90, 0xbf⟩
  else if 0xf1 ≤ n ∧ n ≤ 0xf3 then some ⟨3, 0x80, 0xbf⟩
  else if n = 0xf4 then some ⟨3, 0x80, 0x8f⟩
  else none

def within (low high : Nat) (byte : UInt8) : Bool :=
  decide (low ≤ byte.toNat ∧ byte.toNat ≤ high)

def isContinuation (byte : UInt8) : Bool := within 0x80 0xbf byte

/-- Whether a text with the given bytes can be cut after so many of them: at its start, at its end,
and before every byte that continues no sequence. -/
def isBoundary (bytes : List UInt8) (place : Nat) : Bool :=
  place == 0 ||
    match bytes[place]? with
    | some byte => !isContinuation byte
    | none => place == bytes.length

/-- The last boundary at or before a place, none if the search went below zero. -/
def boundaryFrom? (bytes : List UInt8) : Nat → Option Nat
  | 0 => if isBoundary bytes 0 then some 0 else none
  | place + 1 =>
    if isBoundary bytes (place + 1) then some (place + 1) else boundaryFrom? bytes place

/-- The part of a text before a place, none where it cannot be cut. -/
def before? (text : String) (place : Nat) : Option String :=
  if isBoundary (bytes text) place then text? ((bytes text).take place) else none

/-- The verdict on the sequence that a byte begins: its length in bytes, or the fault. -/
inductive Verdict where
  | whole (length : Nat)
  | broken (length : Nat)
  | cut
  deriving DecidableEq, Repr

/-- Checks the later bytes of a sequence of which `seen` bytes are right. -/
def checkFurther : Nat → Nat → List UInt8 → Verdict
  | 0, seen, _ => .whole seen
  | _ + 1, _, [] => .cut
  | further + 1, seen, byte :: rest =>
    if isContinuation byte then checkFurther further (seen + 1) rest else .broken seen

/-- The verdict on the sequence at the start of bytes. -/
def verdict (first : UInt8) (rest : List UInt8) : Verdict :=
  if first.toNat < 0x80 then .whole 1
  else
    match lead? first, rest with
    | none, _ => .broken 1
    | some _, [] => .cut
    | some lead, second :: later =>
      if within lead.low lead.high second then checkFurther (lead.further - 1) 2 later
      else .broken 1

/-- The first fault at or after `index`; `skip` bytes still belong to a sequence found right. -/
def faultFrom (index skip : Nat) : List UInt8 → Option Fault
  | [] => none
  | byte :: rest =>
    match skip with
    | skip + 1 => faultFrom (index + 1) skip rest
    | 0 =>
      match verdict byte rest with
      | .whole length => faultFrom (index + 1) (length - 1) rest
      | .broken length => some ⟨index, some length⟩
      | .cut => some ⟨index, none⟩

def fault? (bytes : List UInt8) : Option Fault := faultFrom 0 0 bytes

/-- The bytes with every fault replaced by the three bytes of the replacement character. -/
def mend (skip : Nat) : List UInt8 → List UInt8
  | [] => []
  | byte :: rest =>
    match skip with
    | skip + 1 => byte :: mend skip rest
    | 0 =>
      match verdict byte rest with
      | .whole length => byte :: mend (length - 1) rest
      | .broken length => 0xef :: 0xbf :: 0xbd :: mend 0 (rest.drop (length - 1))
      | .cut => [0xef, 0xbf, 0xbd]
termination_by bytes => bytes.length
decreasing_by all_goals (simp only [List.length_cons, List.length_drop]; omega)

/-- A lenient reading: one replacement character for each fault. -/
def lenient (bytes : List UInt8) : String :=
  (text? (mend 0 bytes)).getD ""

def Fault.message (fault : Fault) : String :=
  match fault.length with
  | some length =>
    "invalid utf-8 sequence of " ++ toString length ++ " bytes from index " ++
      toString fault.index
  | none => "incomplete utf-8 byte sequence from index " ++ toString fault.index

theorem toByteArray_bytes (text : String) : (bytes text).toByteArray = text.toByteArray :=
  String.utf8Encode_toList

theorem text?_bytes (text : String) : text? (bytes text) = some text := by
  rw [text?, toByteArray_bytes]
  simp [String.fromUTF8?, String.fromUTF8, text.isValidUTF8]

/-- Bytes are well formed exactly when they are those of a text. -/
theorem text?_eq_some_iff {bytes : List UInt8} {text : String} :
    text? bytes = some text ↔ Utf8.bytes text = bytes := by
  constructor
  · intro h
    unfold text? String.fromUTF8? at h
    split at h
    · have hbytes : text.toByteArray = bytes.toByteArray := by
        cases h
        rfl
      exact List.toByteArray_inj.1 ((toByteArray_bytes text).trans hbytes)
    · cases h
  · rintro rfl
    exact text?_bytes text

end NamespaceLifecycle.Text.Utf8
