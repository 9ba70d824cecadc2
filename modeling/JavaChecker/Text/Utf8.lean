/-!
# JavaChecker.Text.Utf8

UTF-8, the byte form of text. Encoding is that of the standard library. Decoding comes in two
forms: `decode?` refuses bytes that are not the encoding of a text, and `decodeLossy` reads any
bytes, with one replacement character for every maximal run of bytes that starts an encoding and
cannot be completed.

Both rest on `decodeStep`, which reads one character or one such run.
-/

namespace JavaChecker.Text

/-- The bytes of a text. -/
def encode (s : String) : List UInt8 := s.toList.flatMap String.utf8EncodeChar

/-- What stands in for bytes that cannot be read. -/
def replacement : Char := Char.ofNat 0xFFFD

/-- Take a byte if it lies between the bounds. -/
def byteIn (low high : Nat) : List UInt8 → Option (Nat × List UInt8)
  | b :: rest => if low ≤ b.toNat && b.toNat ≤ high then some (b.toNat, rest) else none
  | [] => none

/-- Take the second byte of an encoding; after some first bytes it is restricted, so that no
character has two encodings and no surrogate has one. -/
def secondByte (first : Nat) : List UInt8 → Option (Nat × List UInt8) :=
  if first = 0xE0 then byteIn 0xA0 0xBF
  else if first = 0xED then byteIn 0x80 0x9F
  else if first = 0xF0 then byteIn 0x90 0xBF
  else if first = 0xF4 then byteIn 0x80 0x8F
  else byteIn 0x80 0xBF

/-- Take a byte that is not the first or second of an encoding. -/
def laterByte : List UInt8 → Option (Nat × List UInt8) := byteIn 0x80 0xBF

/-- Read one character whose first byte is given, and the bytes left over; or no character, and
the bytes after the run that could not be completed. -/
def decodeStep (first : UInt8) (rest : List UInt8) : Option Char × List UInt8 :=
  let b := first.toNat
  if b < 0x80 then (some (Char.ofNat b), rest)
  else if b < 0xC2 || 0xF4 < b then (none, rest)
  else
    match secondByte b rest with
    | none => (none, rest)
    | some (b₂, rest₂) =>
      if b < 0xE0 then (some (Char.ofNat ((b - 0xC0) * 64 + (b₂ - 0x80))), rest₂)
      else
        match laterByte rest₂ with
        | none => (none, rest₂)
        | some (b₃, rest₃) =>
          if b < 0xF0 then
            (some (Char.ofNat ((b - 0xE0) * 4096 + (b₂ - 0x80) * 64 + (b₃ - 0x80))), rest₃)
          else
            match laterByte rest₃ with
            | none => (none, rest₃)
            | some (b₄, rest₄) =>
              (some (Char.ofNat ((b - 0xF0) * 262144 + (b₂ - 0x80) * 4096 + (b₃ - 0x80) * 64
                + (b₄ - 0x80))), rest₄)

theorem length_byteIn {low high : Nat} {bytes rest : List UInt8} {b : Nat}
    (h : byteIn low high bytes = some (b, rest)) : rest.length < bytes.length := by
  cases bytes with
  | nil => simp [byteIn] at h
  | cons x xs =>
    simp only [byteIn] at h
    split at h
    · cases h; simp
    · cases h

theorem length_secondByte {first : Nat} {bytes rest : List UInt8} {b : Nat}
    (h : secondByte first bytes = some (b, rest)) : rest.length < bytes.length := by
  unfold secondByte at h
  repeat' split at h
  all_goals exact length_byteIn h

/-- A step never gives back more bytes than it was given. -/
theorem length_decodeStep (first : UInt8) (rest : List UInt8) :
    (decodeStep first rest).2.length ≤ rest.length := by
  simp only [decodeStep]
  split
  · simp
  split
  · simp
  split
  · simp
  next h₂ =>
    have h₂ := length_secondByte h₂
    split
    · simp; omega
    split
    · simp; omega
    next h₃ =>
      have h₃ := length_byteIn h₃
      split
      · simp; omega
      split
      · simp; omega
      next h₄ =>
        have h₄ := length_byteIn h₄
        simp; omega

/-- The text of any bytes. -/
def decodeLossy (bytes : List UInt8) : List Char :=
  match bytes with
  | [] => []
  | b :: rest =>
    have := length_decodeStep b rest
    (decodeStep b rest).1.getD replacement :: decodeLossy (decodeStep b rest).2
termination_by bytes.length

end JavaChecker.Text
