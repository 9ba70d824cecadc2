import JavaChecker.Text.Utf8

/-!
# JavaChecker.Proofs.Utf8

Decoding undoes encoding. One step of the decoder, at the first byte of an encoded character, reads
that character and leaves the bytes behind it (`decodeStep_encodeChar`), whichever of the four
lengths the encoding has. The second byte is the one to look at: after four of the first bytes it is
restricted, and each restriction is met because the character is in no shorter form and is no
surrogate.
-/

namespace JavaChecker.Text

/-! ### Bytes that continue an encoding -/

theorem byteIn_ofNat {low high n : Nat} (rest : List UInt8) (hlow : low ≤ n) (hhigh : n ≤ high)
    (hbyte : n < 256) : byteIn low high (UInt8.ofNat n :: rest) = some (n, rest) := by
  have hn : (UInt8.ofNat n).toNat = n := UInt8.toNat_ofNat_of_lt hbyte
  simp [byteIn, hn, hlow, hhigh]

theorem laterByte_ofNat {n : Nat} (rest : List UInt8) (hn : n < 64) :
    laterByte (UInt8.ofNat (n + 0x80) :: rest) = some (n + 0x80, rest) :=
  byteIn_ofNat rest (by omega) (by omega) (by omega)

/-- The second byte of an encoding is read if it respects the restriction that the first byte puts
on it. -/
theorem secondByte_ofNat {first n : Nat} (rest : List UInt8) (hn : n < 64)
    (hE0 : first = 0xE0 → 0x20 ≤ n) (hED : first = 0xED → n < 0x20)
    (hF0 : first = 0xF0 → 0x10 ≤ n) (hF4 : first = 0xF4 → n < 0x10) :
    secondByte first (UInt8.ofNat (n + 0x80) :: rest) = some (n + 0x80, rest) := by
  unfold secondByte
  split
  · next h =>
      have := hE0 h
      exact byteIn_ofNat rest (by omega) (by omega) (by omega)
  split
  · next h =>
      have := hED h
      exact byteIn_ofNat rest (by omega) (by omega) (by omega)
  split
  · next h =>
      have := hF0 h
      exact byteIn_ofNat rest (by omega) (by omega) (by omega)
  split
  · next h =>
      have := hF4 h
      exact byteIn_ofNat rest (by omega) (by omega) (by omega)
  · exact byteIn_ofNat rest (by omega) (by omega) (by omega)

/-! ### One character -/

theorem val_bounds (c : Char) :
    c.val.toNat < 0xD800 ∨ 0xDFFF < c.val.toNat ∧ c.val.toNat < 0x110000 := c.valid

theorem decodeStep_one {v : Nat} (rest : List UInt8) (h : v ≤ 0x7F) :
    decodeStep (UInt8.ofNat v) rest = (some (Char.ofNat v), rest) := by
  have hbyte : v < 256 := by omega
  have hv : (UInt8.ofNat v).toNat = v := UInt8.toNat_ofNat_of_lt hbyte
  unfold decodeStep
  rw [hv, if_pos (by omega)]

theorem decodeStep_two {v : Nat} (rest : List UInt8) (hlow : 0x7F < v) (hhigh : v ≤ 0x7FF) :
    decodeStep (UInt8.ofNat (v / 64 % 0x20 + 0xC0)) (UInt8.ofNat (v % 0x40 + 0x80) :: rest) =
      (some (Char.ofNat v), rest) := by
  have hfirst : (UInt8.ofNat (v / 64 % 0x20 + 0xC0)).toNat = v / 64 + 0xC0 := by
    simp only [UInt8.toNat_ofNat']
    omega
  have hvalue : (v / 64 + 0xC0 - 0xC0) * 64 + (v % 0x40 + 0x80 - 0x80) = v := by omega
  unfold decodeStep
  rw [hfirst, if_neg (by omega), if_neg (by simp; omega),
    secondByte_ofNat rest (by omega) (by omega) (by omega) (by omega) (by omega)]
  dsimp only
  rw [if_pos (by omega), hvalue]

theorem decodeStep_three {v : Nat} (rest : List UInt8) (hlow : 0x7FF < v) (hhigh : v ≤ 0xFFFF)
    (hscalar : v < 0xD800 ∨ 0xDFFF < v) :
    decodeStep (UInt8.ofNat (v / 4096 % 0x10 + 0xE0))
      (UInt8.ofNat (v / 64 % 0x40 + 0x80) :: UInt8.ofNat (v % 0x40 + 0x80) :: rest) =
      (some (Char.ofNat v), rest) := by
  have hfirst : (UInt8.ofNat (v / 4096 % 0x10 + 0xE0)).toNat = v / 4096 + 0xE0 := by
    simp only [UInt8.toNat_ofNat']
    omega
  have hvalue : (v / 4096 + 0xE0 - 0xE0) * 4096 + (v / 64 % 0x40 + 0x80 - 0x80) * 64 +
      (v % 0x40 + 0x80 - 0x80) = v := by omega
  unfold decodeStep
  rw [hfirst, if_neg (by omega), if_neg (by simp; omega),
    secondByte_ofNat _ (by omega) (by omega) (by omega) (by omega) (by omega)]
  dsimp only
  rw [if_neg (by omega), laterByte_ofNat rest (by omega)]
  dsimp only
  rw [if_pos (by omega), hvalue]

theorem decodeStep_four {v : Nat} (rest : List UInt8) (hlow : 0xFFFF < v) (hhigh : v < 0x110000) :
    decodeStep (UInt8.ofNat (v / 262144 % 0x08 + 0xF0))
      (UInt8.ofNat (v / 4096 % 0x40 + 0x80) :: UInt8.ofNat (v / 64 % 0x40 + 0x80) ::
        UInt8.ofNat (v % 0x40 + 0x80) :: rest) =
      (some (Char.ofNat v), rest) := by
  have hfirst : (UInt8.ofNat (v / 262144 % 0x08 + 0xF0)).toNat = v / 262144 + 0xF0 := by
    simp only [UInt8.toNat_ofNat']
    omega
  have hvalue : (v / 262144 + 0xF0 - 0xF0) * 262144 + (v / 4096 % 0x40 + 0x80 - 0x80) * 4096 +
      (v / 64 % 0x40 + 0x80 - 0x80) * 64 + (v % 0x40 + 0x80 - 0x80) = v := by omega
  unfold decodeStep
  rw [hfirst, if_neg (by omega), if_neg (by simp; omega),
    secondByte_ofNat _ (by omega) (by omega) (by omega) (by omega) (by omega)]
  dsimp only
  rw [if_neg (by omega), laterByte_ofNat _ (by omega)]
  dsimp only
  rw [if_neg (by omega), laterByte_ofNat rest (by omega)]
  dsimp only
  rw [hvalue]

/-- **A step at the encoding of a character reads the character.** -/
theorem decodeStep_encodeChar (c : Char) (rest : List UInt8) :
    ∃ first later, String.utf8EncodeChar c = first :: later ∧
      decodeStep first (later ++ rest) = (some c, rest) := by
  have hbounds := val_bounds c
  have hchar : Char.ofNat c.val.toNat = c := Char.ofNat_toNat c
  fun_cases String.utf8EncodeChar c with
  | case1 v h => exact ⟨_, _, rfl, by rw [List.nil_append, decodeStep_one rest h, hchar]⟩
  | case2 v h h' =>
      refine ⟨_, _, rfl, ?_⟩
      simp only [List.cons_append, List.nil_append]
      rw [decodeStep_two rest (by omega) h', hchar]
  | case3 v h h' h'' =>
      refine ⟨_, _, rfl, ?_⟩
      simp only [List.cons_append, List.nil_append]
      rw [decodeStep_three rest (by omega) h'' (by omega), hchar]
  | case4 v h h' h'' =>
      refine ⟨_, _, rfl, ?_⟩
      simp only [List.cons_append, List.nil_append]
      rw [decodeStep_four rest (by omega) (by omega), hchar]

theorem decodeLossy_encodeChar (c : Char) (rest : List UInt8) :
    decodeLossy (String.utf8EncodeChar c ++ rest) = c :: decodeLossy rest := by
  obtain ⟨first, later, hencode, hstep⟩ := decodeStep_encodeChar c rest
  rw [hencode, List.cons_append, decodeLossy, hstep, Option.getD_some]

/-! ### Whole texts -/

theorem decodeLossy_flatMap_encodeChar (cs : List Char) :
    decodeLossy (cs.flatMap String.utf8EncodeChar) = cs := by
  induction cs with
  | nil => rw [List.flatMap_nil, decodeLossy]
  | cons c cs ih => rw [List.flatMap_cons, decodeLossy_encodeChar, ih]

/-- The bytes of a text decode to the text. -/
theorem decodeLossy_encode (s : String) : decodeLossy (encode s) = s.toList :=
  decodeLossy_flatMap_encodeChar s.toList

theorem encode_append (a b : String) : encode (a ++ b) = encode a ++ encode b := by
  rw [encode, String.toList_append, List.flatMap_append, encode, encode]

end JavaChecker.Text
