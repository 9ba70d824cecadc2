import JavaChecker.Proofs.Utf8

/-!
# JavaChecker.Proofs.LossyText

What arbitrary bytes are read as. `Lossy` says it without a decoder, by the encodings of characters
alone: where a character is encoded, the bytes stand for that character; elsewhere one replacement
character stands for a maximal subpart, that is for the longest beginning of an encoding, or for one
byte where no encoding begins. `lossy_iff` shows that the decoder gives the one text that bytes
stand for in this sense.

A step of the decoder that reads a character takes exactly its encoding
(`eq_encodeChar_of_decodeStep`), and one that reads none stops at the first byte that no encoding
with the same beginning goes on with (`stop_of_decodeStep`). The rest follows from the encodings,
also that nothing reaches across a line feed, whatever bytes stand before it
(`decodeLossy_append_newline`).
-/

namespace JavaChecker.Text

open String (utf8EncodeChar)

/-! ### Bytes behind the first -/

theorem byteIn_eq_some_iff {low high n : Nat} {bytes rest : List UInt8} :
    byteIn low high bytes = some (n, rest) ↔
      ∃ x : UInt8, bytes = x :: rest ∧ x.toNat = n ∧ low ≤ n ∧ n ≤ high := by
  cases bytes with
  | nil => simp [byteIn]
  | cons x xs =>
      simp only [byteIn, Option.ite_none_right_eq_some, Bool.and_eq_true, decide_eq_true_eq,
        Option.some.injEq, Prod.mk.injEq, List.cons.injEq]
      refine ⟨?_, ?_⟩
      · rintro ⟨⟨hlow, hhigh⟩, rfl, rfl⟩
        exact ⟨x, ⟨rfl, rfl⟩, rfl, hlow, hhigh⟩
      · rintro ⟨_, ⟨rfl, rfl⟩, rfl, hlow, hhigh⟩
        exact ⟨⟨hlow, hhigh⟩, rfl, rfl⟩

theorem byteIn_eq_none_of_head? {low high : Nat} {bytes other : List UInt8}
    (h : byteIn low high bytes = none) (hhead : other.head? = bytes.head?) :
    byteIn low high other = none := by
  cases other with
  | nil => rfl
  | cons x other =>
      cases bytes with
      | nil => cases hhead
      | cons y bytes =>
          cases hhead
          simpa [byteIn] using h

/-- The byte may stand second in an encoding, behind the given first byte. -/
def Second (first x : Nat) : Prop :=
  0x80 ≤ x ∧ x ≤ 0xBF ∧ (first = 0xE0 → 0xA0 ≤ x) ∧ (first = 0xED → x ≤ 0x9F) ∧
    (first = 0xF0 → 0x90 ≤ x) ∧ (first = 0xF4 → x ≤ 0x8F)

theorem exists_secondByte_eq (first : Nat) :
    ∃ low high, secondByte first = byteIn low high ∧
      ∀ x, low ≤ x ∧ x ≤ high ↔ Second first x := by
  unfold secondByte Second
  split
  · exact ⟨_, _, rfl, by omega⟩
  split
  · exact ⟨_, _, rfl, by omega⟩
  split
  · exact ⟨_, _, rfl, by omega⟩
  split
  · exact ⟨_, _, rfl, by omega⟩
  · exact ⟨_, _, rfl, by omega⟩

theorem secondByte_eq_some_iff {first n : Nat} {bytes rest : List UInt8} :
    secondByte first bytes = some (n, rest) ↔
      ∃ x : UInt8, bytes = x :: rest ∧ x.toNat = n ∧ Second first n := by
  obtain ⟨low, high, heq, hiff⟩ := exists_secondByte_eq first
  rw [heq, byteIn_eq_some_iff]
  simp only [hiff]

theorem secondByte_eq_none_of_head? {first : Nat} {bytes other : List UInt8}
    (h : secondByte first bytes = none) (hhead : other.head? = bytes.head?) :
    secondByte first other = none := by
  obtain ⟨low, high, heq, -⟩ := exists_secondByte_eq first
  rw [heq] at h ⊢
  exact byteIn_eq_none_of_head? h hhead

/-! ### The encoding of a value -/

theorem utf8EncodeChar_ofNat {v : Nat} (h : v.isValidChar) :
    utf8EncodeChar (Char.ofNat v) =
      if v ≤ 0x7F then [UInt8.ofNat v]
      else if v ≤ 0x7FF then [UInt8.ofNat (v / 64 % 0x20 + 0xC0), UInt8.ofNat (v % 0x40 + 0x80)]
      else if v ≤ 0xFFFF then [UInt8.ofNat (v / 4096 % 0x10 + 0xE0),
        UInt8.ofNat (v / 64 % 0x40 + 0x80), UInt8.ofNat (v % 0x40 + 0x80)]
      else [UInt8.ofNat (v / 262144 % 0x08 + 0xF0), UInt8.ofNat (v / 4096 % 0x40 + 0x80),
        UInt8.ofNat (v / 64 % 0x40 + 0x80), UInt8.ofNat (v % 0x40 + 0x80)] := by
  rw [Char.ofNat, dif_pos h]
  rfl

theorem ofNat_eq_of_toNat {x : UInt8} {n : Nat} (h : n = x.toNat) : UInt8.ofNat n = x := by
  rw [h, UInt8.ofNat_toNat]

theorem encodeChar_one {a : UInt8} (ha : a.toNat < 0x80) :
    utf8EncodeChar (Char.ofNat a.toNat) = [a] := by
  rw [utf8EncodeChar_ofNat (.inl (by omega)), if_pos (by omega), ofNat_eq_of_toNat rfl]

theorem encodeChar_two {a x : UInt8} (ha : 0xC2 ≤ a.toNat) (ha' : a.toNat < 0xE0)
    (hx : Second a.toNat x.toNat) :
    utf8EncodeChar (Char.ofNat ((a.toNat - 0xC0) * 64 + (x.toNat - 0x80))) = [a, x] := by
  obtain ⟨hlow, hhigh, -⟩ := hx
  rw [utf8EncodeChar_ofNat (.inl (by omega)), if_neg (by omega), if_pos (by omega),
    ofNat_eq_of_toNat (x := a) (by omega), ofNat_eq_of_toNat (x := x) (by omega)]

theorem encodeChar_three {a x y : UInt8} (ha : 0xE0 ≤ a.toNat) (ha' : a.toNat < 0xF0)
    (hx : Second a.toNat x.toNat) (hy : 0x80 ≤ y.toNat ∧ y.toNat ≤ 0xBF) :
    utf8EncodeChar (Char.ofNat ((a.toNat - 0xE0) * 4096 + (x.toNat - 0x80) * 64 +
      (y.toNat - 0x80))) = [a, x, y] := by
  obtain ⟨hlow, hhigh, hE0, hED, -, -⟩ := hx
  have hvalid : Nat.isValidChar ((a.toNat - 0xE0) * 4096 + (x.toNat - 0x80) * 64 +
      (y.toNat - 0x80)) := by
    unfold Nat.isValidChar
    omega
  rw [utf8EncodeChar_ofNat hvalid, if_neg (by omega), if_neg (by omega), if_pos (by omega),
    ofNat_eq_of_toNat (x := a) (by omega), ofNat_eq_of_toNat (x := x) (by omega),
    ofNat_eq_of_toNat (x := y) (by omega)]

theorem encodeChar_four {a x y z : UInt8} (ha : 0xF0 ≤ a.toNat) (ha' : a.toNat ≤ 0xF4)
    (hx : Second a.toNat x.toNat) (hy : 0x80 ≤ y.toNat ∧ y.toNat ≤ 0xBF)
    (hz : 0x80 ≤ z.toNat ∧ z.toNat ≤ 0xBF) :
    utf8EncodeChar (Char.ofNat ((a.toNat - 0xF0) * 262144 + (x.toNat - 0x80) * 4096 +
      (y.toNat - 0x80) * 64 + (z.toNat - 0x80))) = [a, x, y, z] := by
  obtain ⟨hlow, hhigh, -, -, hF0, hF4⟩ := hx
  have hvalid : Nat.isValidChar ((a.toNat - 0xF0) * 262144 + (x.toNat - 0x80) * 4096 +
      (y.toNat - 0x80) * 64 + (z.toNat - 0x80)) := by
    unfold Nat.isValidChar
    omega
  rw [utf8EncodeChar_ofNat hvalid, if_neg (by omega), if_neg (by omega), if_neg (by omega),
    ofNat_eq_of_toNat (x := a) (by omega), ofNat_eq_of_toNat (x := x) (by omega),
    ofNat_eq_of_toNat (x := y) (by omega), ofNat_eq_of_toNat (x := z) (by omega)]

/-! ### One step of the decoder -/

/-- A character that a step reads is encoded by the bytes that the step takes. -/
theorem eq_encodeChar_of_decodeStep {first : UInt8} {rest left : List UInt8} {c : Char}
    (h : decodeStep first rest = (some c, left)) :
    first :: rest = utf8EncodeChar c ++ left := by
  simp only [decodeStep, laterByte] at h
  split at h
  · next hone =>
      simp only [Prod.mk.injEq, Option.some.injEq] at h
      obtain ⟨rfl, rfl⟩ := h
      rw [encodeChar_one hone, List.singleton_append]
  split at h
  · cases h
  next hfirst =>
  simp only [Bool.or_eq_true, decide_eq_true_eq, not_or, Nat.not_lt] at hfirst
  split at h
  · cases h
  next hread₂ =>
  obtain ⟨x, rfl, rfl, hx⟩ := secondByte_eq_some_iff.mp hread₂
  split at h
  · next htwo =>
      simp only [Prod.mk.injEq, Option.some.injEq] at h
      obtain ⟨rfl, rfl⟩ := h
      rw [encodeChar_two hfirst.1 htwo hx]
      rfl
  next htwo =>
  split at h
  · cases h
  next hread₃ =>
  obtain ⟨y, rfl, rfl, hy⟩ := byteIn_eq_some_iff.mp hread₃
  split at h
  · next hthree =>
      simp only [Prod.mk.injEq, Option.some.injEq] at h
      obtain ⟨rfl, rfl⟩ := h
      rw [encodeChar_three (Nat.le_of_not_lt htwo) hthree hx hy]
      rfl
  next hthree =>
  split at h
  · cases h
  next hread₄ =>
  obtain ⟨z, rfl, rfl, hz⟩ := byteIn_eq_some_iff.mp hread₄
  simp only [Prod.mk.injEq, Option.some.injEq] at h
  obtain ⟨rfl, rfl⟩ := h
  rw [encodeChar_four (Nat.le_of_not_lt hthree) hfirst.2 hx hy hz]
  rfl

/-- The bytes begin the encoding of some character, or are all of it. -/
def Begins (run : List UInt8) : Prop := ∃ c, run <+: utf8EncodeChar c

theorem begins_two {a x : UInt8} (ha : 0xE0 ≤ a.toNat) (ha' : a.toNat ≤ 0xF4)
    (hx : Second a.toNat x.toNat) : Begins [a, x] := by
  by_cases hthree : a.toNat < 0xF0
  · exact ⟨_, [0x80], (encodeChar_three ha hthree hx (y := 0x80) (by decide)).symm⟩
  · exact ⟨_, [0x80, 0x80], (encodeChar_four (Nat.le_of_not_lt hthree) ha' hx (y := 0x80)
      (z := 0x80) (by decide) (by decide)).symm⟩

/-- A step that reads no character stops at the first byte that cannot go on with the encoding
begun. It looks no further than that byte. -/
theorem stop_of_decodeStep {first : UInt8} {rest left : List UInt8}
    (h : decodeStep first rest = (none, left)) :
    ∃ used, rest = used ++ left ∧ (used = [] ∨ Begins (first :: used)) ∧
      ∀ other, other.head? = left.head? → decodeStep first (used ++ other) = (none, other) := by
  simp only [decodeStep, laterByte] at h ⊢
  split at h
  · cases h
  next hone =>
  split at h
  · next hfirst =>
      cases h
      exact ⟨[], rfl, .inl rfl, fun other _ => by rw [if_neg hone, if_pos hfirst]; rfl⟩
  next hfirst =>
  split at h
  · next hread₂ =>
      cases h
      refine ⟨[], rfl, .inl rfl, ?_⟩
      intro other hhead
      rw [if_neg hone, if_neg hfirst, List.nil_append, secondByte_eq_none_of_head? hread₂ hhead]
  next hread₂ =>
  obtain ⟨x, rfl, rfl, hx⟩ := secondByte_eq_some_iff.mp hread₂
  have hsecond : ∀ other, secondByte first.toNat (x :: other) = some (x.toNat, other) :=
    fun other => secondByte_eq_some_iff.mpr ⟨x, rfl, rfl, hx⟩
  have hbound : first.toNat ≤ 0xF4 := by simp at hfirst; omega
  split at h
  · cases h
  next htwo =>
  split at h
  · next hread₃ =>
      cases h
      refine ⟨[x], rfl, .inr (begins_two (Nat.le_of_not_lt htwo) hbound hx), ?_⟩
      intro other hhead
      rw [if_neg hone, if_neg hfirst, List.singleton_append, hsecond]
      dsimp only
      rw [if_neg htwo, byteIn_eq_none_of_head? hread₃ hhead]
  next hread₃ =>
  obtain ⟨y, rfl, rfl, hy⟩ := byteIn_eq_some_iff.mp hread₃
  split at h
  · cases h
  next hthree =>
  split at h
  · next hread₄ =>
      cases h
      refine ⟨[x, y], rfl, .inr ⟨_, [0x80], (encodeChar_four (Nat.le_of_not_lt hthree) hbound hx hy
        (z := 0x80) (by decide)).symm⟩, ?_⟩
      intro other hhead
      rw [if_neg hone, if_neg hfirst, List.cons_append, List.singleton_append, hsecond]
      dsimp only
      rw [if_neg htwo, byteIn_eq_some_iff.mpr ⟨y, rfl, rfl, hy⟩]
      dsimp only
      rw [if_neg hthree, byteIn_eq_none_of_head? hread₄ hhead]
  · cases h

/-! ### Lossy decoding -/

/-- One replacement character stands for `run` where the bytes are `run ++ rest`: no character is
encoded there, and `run` is the longest beginning of an encoding, or a single byte where none
begins. -/
structure MaximalSubpart (run rest : List UInt8) : Prop where
  ne_nil : run ≠ []
  no_char : ∀ c, ¬ utf8EncodeChar c <+: run ++ rest
  begins : Begins run ∨ run.length = 1
  maximal : ∀ longer, longer <+: run ++ rest → run.length < longer.length → ¬ Begins longer

/-- The text that bytes stand for, with replacement characters where they encode none. -/
inductive Lossy : List UInt8 → List Char → Prop where
  | nil : Lossy [] []
  | char (c : Char) {rest : List UInt8} {text : List Char} :
      Lossy rest text → Lossy (utf8EncodeChar c ++ rest) (c :: text)
  | unreadable {run rest : List UInt8} {text : List Char} :
      MaximalSubpart run rest → Lossy rest text → Lossy (run ++ rest) (replacement :: text)

theorem maximalSubpart_of_decodeStep {first : UInt8} {rest left : List UInt8}
    (h : decodeStep first rest = (none, left)) :
    ∃ run, first :: rest = run ++ left ∧ MaximalSubpart run left := by
  obtain ⟨used, rfl, hbegins, hstop⟩ := stop_of_decodeStep h
  refine ⟨first :: used, rfl, List.cons_ne_nil _ _, ?_, ?_, ?_⟩
  · rintro c ⟨left', hleft'⟩
    obtain ⟨a, later, hencode, hstep⟩ := decodeStep_encodeChar c left'
    rw [hencode, List.cons_append, List.cons_append, List.cons.injEq] at hleft'
    rw [hleft'.1, hleft'.2, h] at hstep
    cases hstep
  · rcases hbegins with rfl | hbegins
    · exact .inr rfl
    · exact .inl hbegins
  · rintro longer hlonger hlength ⟨c, more, hmore⟩
    -- The encoding goes on with the byte at which the step stopped.
    obtain ⟨extra, rfl⟩ : first :: used <+: longer :=
      List.prefix_of_prefix_length_le (List.prefix_append _ left) hlonger (Nat.le_of_lt hlength)
    cases extra with
    | nil => simp at hlength
    | cons y extra =>
        have hhead : (y :: extra ++ more).head? = left.head? := by
          obtain ⟨tail, rfl⟩ := (List.prefix_append_right_inj _).mp hlonger
          rfl
        obtain ⟨a, later, hencode, hstep⟩ := decodeStep_encodeChar c []
        rw [hencode, List.cons_append, List.cons_append, List.cons.injEq] at hmore
        rw [← hmore.1, ← hmore.2, List.append_nil, List.append_assoc, hstop _ hhead] at hstep
        cases hstep

theorem MaximalSubpart.length_le {run rest other rest' : List UInt8} (h : MaximalSubpart run rest)
    (h' : MaximalSubpart other rest') (heq : run ++ rest = other ++ rest') :
    other.length ≤ run.length := by
  apply Nat.le_of_not_lt
  intro hlt
  have hprefix : other <+: run ++ rest := ⟨rest', heq.symm⟩
  have hpos := List.length_pos_iff.mpr h.ne_nil
  rcases h'.begins with hbegins | hone
  · exact h.maximal other hprefix hlt hbegins
  · omega

theorem MaximalSubpart.decodeStep_eq {first : UInt8} {run rest left : List UInt8}
    (h : MaximalSubpart run left) (heq : first :: rest = run ++ left) :
    decodeStep first rest = (none, left) := by
  cases hstep : decodeStep first rest with
  | mk c? left' =>
      cases c? with
      | some c =>
          have hchar := eq_encodeChar_of_decodeStep hstep
          exact absurd ⟨left', by rw [← heq, hchar]⟩ (h.no_char c)
      | none =>
          obtain ⟨run', heq', h'⟩ := maximalSubpart_of_decodeStep hstep
          rw [heq] at heq'
          have hlength : run.length = run'.length :=
            Nat.le_antisymm (h'.length_le h heq'.symm) (h.length_le h' heq')
          rw [(List.append_inj heq' hlength).2]

@[simp] theorem decodeLossy_nil : decodeLossy [] = [] := by
  rw [decodeLossy]

theorem lossy_decodeLossy (bytes : List UInt8) : Lossy bytes (decodeLossy bytes) := by
  fun_induction decodeLossy bytes with
  | case1 => exact .nil
  | case2 b rest _ ih =>
      cases hstep : decodeStep b rest with
      | mk c? left =>
          rw [hstep] at ih
          cases c? with
          | some c =>
              rw [eq_encodeChar_of_decodeStep hstep]
              exact .char c ih
          | none =>
              obtain ⟨run, heq, hrun⟩ := maximalSubpart_of_decodeStep hstep
              rw [heq]
              exact .unreadable hrun ih

theorem Lossy.eq_decodeLossy {bytes : List UInt8} {text : List Char} (h : Lossy bytes text) :
    text = decodeLossy bytes := by
  induction h with
  | nil => exact decodeLossy_nil.symm
  | char c _ ih => rw [decodeLossy_encodeChar, ← ih]
  | @unreadable run rest text hrun _ ih =>
      cases hbytes : run ++ rest with
      | nil => exact absurd (List.append_eq_nil_iff.mp hbytes).1 hrun.ne_nil
      | cons first more => rw [decodeLossy, hrun.decodeStep_eq hbytes.symm, ih, Option.getD_none]

theorem lossy_iff {bytes : List UInt8} {text : List Char} :
    Lossy bytes text ↔ text = decodeLossy bytes :=
  ⟨Lossy.eq_decodeLossy, fun h => h ▸ lossy_decodeLossy bytes⟩

/-! ### Line feeds

The byte of a line feed is part of no other encoding, so no character and no run of unreadable bytes
reaches across it. -/

theorem newline_ne_ofNat {n : Nat} (hlow : 0x80 ≤ n) (hhigh : n < 256) :
    (0x0A : UInt8) ≠ UInt8.ofNat n := by
  intro h
  have hn : (UInt8.ofNat n).toNat = n := UInt8.toNat_ofNat_of_lt hhigh
  rw [← h] at hn
  exact absurd (hn ▸ hlow) (by decide)

theorem encodeChar_eq_of_newline_mem {c : Char} (h : 0x0A ∈ utf8EncodeChar c) :
    utf8EncodeChar c = [0x0A] := by
  -- All bytes of an encoding that is longer than one are beyond the line feed.
  have hlonger : ∀ n, (0x0A : UInt8) ≠ UInt8.ofNat (n % 0x40 + 0x80) :=
    fun n => newline_ne_ofNat (by omega) (by omega)
  revert h
  fun_cases utf8EncodeChar c with
  | case1 v _ =>
      intro h
      rw [List.mem_singleton.mp h]
  | case2 v _ _ =>
      have hfirst : (0x0A : UInt8) ≠ UInt8.ofNat (v / 64 % 0x20 + 0xC0) :=
        newline_ne_ofNat (by omega) (by omega)
      intro h
      rw [List.mem_cons, List.mem_singleton] at h
      exact absurd h (not_or.mpr ⟨hfirst, hlonger v⟩)
  | case3 v _ _ _ =>
      have hfirst : (0x0A : UInt8) ≠ UInt8.ofNat (v / 4096 % 0x10 + 0xE0) :=
        newline_ne_ofNat (by omega) (by omega)
      intro h
      rw [List.mem_cons, List.mem_cons, List.mem_singleton] at h
      exact absurd h (not_or.mpr ⟨hfirst, not_or.mpr ⟨hlonger (v / 64), hlonger v⟩⟩)
  | case4 v _ _ _ =>
      have hfirst : (0x0A : UInt8) ≠ UInt8.ofNat (v / 262144 % 0x08 + 0xF0) :=
        newline_ne_ofNat (by omega) (by omega)
      intro h
      rw [List.mem_cons, List.mem_cons, List.mem_cons, List.mem_singleton] at h
      exact absurd h (not_or.mpr ⟨hfirst, not_or.mpr ⟨hlonger (v / 4096),
        not_or.mpr ⟨hlonger (v / 64), hlonger v⟩⟩⟩)

theorem Begins.length_of_newline_mem {run : List UInt8} (h : Begins run) (hmem : 0x0A ∈ run) :
    run.length ≤ 1 := by
  obtain ⟨c, hc⟩ := h
  have hchar := encodeChar_eq_of_newline_mem (hc.subset hmem)
  have hlength := hc.length_le
  rwa [hchar] at hlength

theorem prefix_or_newline_mem {run bytes back : List UInt8} (h : run <+: bytes ++ 0x0A :: back) :
    run <+: bytes ∨ 0x0A ∈ run := by
  rcases List.prefix_or_prefix_of_prefix h (List.prefix_append bytes _) with hrun | ⟨more, rfl⟩
  · exact .inl hrun
  · have hmore := (List.prefix_append_right_inj bytes).mp h
    cases more with
    | nil => exact .inl (by simp)
    | cons x more =>
        obtain ⟨tail, htail⟩ := hmore
        cases htail
        exact .inr (by simp)

theorem MaximalSubpart.append_newline {run rest : List UInt8} (h : MaximalSubpart run rest)
    (back : List UInt8) : MaximalSubpart run (rest ++ 0x0A :: back) where
  ne_nil := h.ne_nil
  no_char := by
    intro c hc
    rw [← List.append_assoc] at hc
    rcases prefix_or_newline_mem hc with hc | hmem
    · exact h.no_char c hc
    · -- The run is not empty, so the line feed would be its first byte.
      have hchar := encodeChar_eq_of_newline_mem hmem
      obtain ⟨first, used, rfl⟩ := List.exists_cons_of_ne_nil h.ne_nil
      rw [hchar] at hc
      obtain ⟨tail, htail⟩ := hc
      cases htail
      exact h.no_char c ⟨_, by rw [hchar]; rfl⟩
  begins := h.begins
  maximal := by
    intro longer hlonger hlength hbegins
    rw [← List.append_assoc] at hlonger
    rcases prefix_or_newline_mem hlonger with hlonger | hmem
    · exact h.maximal longer hlonger hlength hbegins
    · have hone := hbegins.length_of_newline_mem hmem
      have hpos := List.length_pos_iff.mpr h.ne_nil
      omega

theorem Lossy.append_newline {front back : List UInt8} {text text' : List Char}
    (h : Lossy front text) (h' : Lossy back text') :
    Lossy (front ++ 0x0A :: back) (text ++ '\n' :: text') := by
  induction h with
  | nil => exact .char '\n' h'
  | char c _ ih =>
      rw [List.append_assoc, List.cons_append]
      exact .char c ih
  | unreadable hrun _ ih =>
      rw [List.append_assoc, List.cons_append]
      exact .unreadable (hrun.append_newline back) ih

/-- Bytes are decoded line by line. -/
theorem decodeLossy_append_newline (front back : List UInt8) :
    decodeLossy (front ++ 0x0A :: back) = decodeLossy front ++ '\n' :: decodeLossy back :=
  (lossy_iff.mp ((lossy_decodeLossy front).append_newline (lossy_decodeLossy back))).symm

end JavaChecker.Text
