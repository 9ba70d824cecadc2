import JavaChecker.Config.Level
import Mathlib.Data.List.Forall2
import Mathlib.Data.List.TakeWhile

/-!
# JavaChecker.Proofs.LevelText

What becomes of a configured level before it is read as a filter. Without the blanks around it
(`Trimmed`) it may be a word for a level in large or small letters of the ASCII alphabet (`Named`);
such a level, or a blank one, `StandsFor` a level and becomes its word. Any other text is kept as it
is, and so are letters that only look like those of a word.

Trimming is described by its result alone, which is unique (`trimmed_iff`). All that follows is read
off the two cases of a level (`normalizeLevel_cases`): every result is its own normal form, and two
levels have the same one only if they stand for one level or agree but for the blanks around them
(`normalizeLevel_eq_normalizeLevel_iff`).
-/

namespace JavaChecker

namespace Text

/-! ### Blanks around a text -/

def AllBlank (s : String) : Prop := ∀ c ∈ s.toList, isBlank c = true

/-- The text neither begins nor ends with a blank. -/
structure Tight (s : String) : Prop where
  first : ∀ c ∈ s.toList.head?, isBlank c = false
  last : ∀ c ∈ s.toList.getLast?, isBlank c = false

/-- `text` is what remains of `s` without the blanks around it. -/
structure Trimmed (s text : String) : Prop where
  tight : Tight text
  padded : ∃ before after, AllBlank before ∧ AllBlank after ∧ s = before ++ text ++ after

theorem allBlank_empty : AllBlank "" := by simp [AllBlank]

theorem AllBlank.append {s t : String} (hs : AllBlank s) (ht : AllBlank t) : AllBlank (s ++ t) := by
  intro c hc
  rw [String.toList_append, List.mem_append] at hc
  exact hc.elim (hs c) (ht c)

theorem Trimmed.pad {s text before after : String} (h : Trimmed s text)
    (hbefore : AllBlank before) (hafter : AllBlank after) :
    Trimmed (before ++ s ++ after) text := by
  obtain ⟨htight, front, back, hfront, hback, rfl⟩ := h
  exact ⟨htight, before ++ front, back ++ after, hbefore.append hfront, hback.append hafter,
    by simp only [String.append_assoc]⟩

theorem Tight.trimmed {s : String} (h : Tight s) : Trimmed s s :=
  ⟨h, "", "", allBlank_empty, allBlank_empty, by simp⟩

theorem AllBlank.trimmed {s : String} (h : AllBlank s) : Trimmed s "" :=
  ⟨⟨by simp, by simp⟩, s, "", h, allBlank_empty, by simp⟩

theorem dropWhile_append_of_blank {blanks cs : List Char}
    (hblanks : ∀ c ∈ blanks, isBlank c = true) (hcs : ∀ c ∈ cs.head?, isBlank c = false) :
    (blanks ++ cs).dropWhile isBlank = cs := by
  rw [List.dropWhile_append_of_pos hblanks]
  cases cs with
  | nil => rfl
  | cons c cs => exact List.dropWhile_cons_of_neg (by simp [hcs c rfl])

theorem exists_append_dropWhile (cs : List Char) :
    ∃ blanks, (∀ c ∈ blanks, isBlank c = true) ∧ blanks ++ cs.dropWhile isBlank = cs ∧
      ∀ c ∈ (cs.dropWhile isBlank).head?, isBlank c = false := by
  refine ⟨cs.takeWhile isBlank, fun c => List.mem_takeWhile_imp,
    List.takeWhile_append_dropWhile, ?_⟩
  intro c hc
  have hhead := List.head?_dropWhile_not isBlank cs
  rwa [Option.mem_def.mp hc] at hhead

theorem Trimmed.trim_eq {s text : String} (h : Trimmed s text) : trim s = text := by
  obtain ⟨⟨hfirst, hlast⟩, before, after, hbefore, hafter, rfl⟩ := h
  rw [trim, trimChars, String.toList_append, String.toList_append, List.append_assoc]
  cases htext : text.toList with
  | nil =>
      obtain rfl : text = "" := String.toList_eq_nil_iff.mp htext
      have hblank := hbefore.append hafter
      have hnone : (before.toList ++ after.toList).dropWhile isBlank = [] :=
        List.dropWhile_eq_nil_iff.mpr (String.toList_append ▸ hblank)
      rw [List.nil_append, hnone]
      rfl
  | cons c cs =>
      rw [dropWhile_append_of_blank hbefore (by simpa [htext] using hfirst), List.reverse_append,
        dropWhile_append_of_blank (by simpa using fun c => hafter c)
          (by rwa [List.head?_reverse, ← htext]),
        List.reverse_reverse, ← htext, String.ofList_toList]

theorem trimmed_trim (s : String) : Trimmed s (trim s) := by
  obtain ⟨front, hfront, hs, hfirst⟩ := exists_append_dropWhile s.toList
  obtain ⟨back, hback, hrest, hlast⟩ := exists_append_dropWhile (s.toList.dropWhile isBlank).reverse
  have htext : s.toList.dropWhile isBlank = trimChars s.toList ++ back.reverse := by
    rw [trimChars, ← List.reverse_append, hrest, List.reverse_reverse]
  refine ⟨⟨?_, ?_⟩, String.ofList front, String.ofList back.reverse, ?_, ?_, ?_⟩
  · intro c hc
    -- What remains begins the text behind the blanks in front, so both have one first character.
    rw [trim, String.toList_ofList, Option.mem_def] at hc
    refine hfirst c ?_
    rw [htext, List.head?_append, hc]
    rfl
  · intro c hc
    rw [trim, trimChars, String.toList_ofList, List.getLast?_reverse] at hc
    exact hlast c hc
  · simpa [AllBlank] using hfront
  · simpa [AllBlank] using hback
  · rw [trim, ← String.toList_inj]
    simp [← htext, hs]

/-- What remains without the blanks around a text is unique, and trimming gives it. -/
theorem trimmed_iff {s text : String} : Trimmed s text ↔ trim s = text :=
  ⟨Trimmed.trim_eq, fun h => h ▸ trimmed_trim s⟩

theorem allBlank_iff {s : String} : AllBlank s ↔ trim s = "" := by
  refine ⟨fun h => h.trimmed.trim_eq, ?_⟩
  intro h
  obtain ⟨-, before, after, hbefore, hafter, hs⟩ := trimmed_iff.mpr h
  rw [hs, String.append_empty]
  exact hbefore.append hafter

instance (s : String) : Decidable (AllBlank s) := decidable_of_iff _ allBlank_iff.symm

theorem trim_append {before s after : String} (hbefore : AllBlank before)
    (hafter : AllBlank after) : trim (before ++ s ++ after) = trim s :=
  ((trimmed_trim s).pad hbefore hafter).trim_eq

/-! ### Large and small letters -/

/-- The two characters are one letter of the ASCII alphabet, the first large and the second small.
Small letters stand 32 places behind the large ones. -/
def CapitalOf (large small : Char) : Prop :=
  'A'.toNat ≤ large.toNat ∧ large.toNat ≤ 'Z'.toNat ∧ small.toNat = large.toNat + 32

def SameLetter (c d : Char) : Prop := c = d ∨ CapitalOf c d ∨ CapitalOf d c

/-- The texts are the same up to the size of the letters of the ASCII alphabet. -/
def SameLetters (s t : String) : Prop := List.Forall₂ SameLetter s.toList t.toList

theorem toNat_toLower {c : Char} (h : 65 ≤ c.toNat ∧ c.toNat ≤ 90) :
    c.toLower.toNat = c.toNat + 32 := by
  have hcapital : c.val ≥ 'A'.val ∧ c.val ≤ 'Z'.val := h
  have hlower : c.toLower.val = c.val + 32 := congrArg Char.val (dif_pos hcapital)
  change c.toLower.val.toNat = c.val.toNat + 32
  rw [hlower, UInt32.toNat_add]
  exact Nat.mod_eq_of_lt (Nat.lt_of_le_of_lt (Nat.add_le_add_right h.2 32) (by decide))

theorem toLower_of_not_capital {c : Char} (h : ¬ (65 ≤ c.toNat ∧ c.toNat ≤ 90)) :
    c.toLower = c := by
  have hsmall : ¬ (c.val ≥ 'A'.val ∧ c.val ≤ 'Z'.val) := h
  exact dif_neg hsmall

/-- Lowering a character forgets the size of a letter and nothing else. -/
theorem toLower_eq_toLower_iff {c d : Char} : c.toLower = d.toLower ↔ SameLetter c d := by
  have hA : 'A'.toNat = 65 := rfl
  have hZ : 'Z'.toNat = 90 := rfl
  simp only [SameLetter, CapitalOf, ← Char.toNat_inj, hA, hZ]
  by_cases hc : 65 ≤ c.toNat ∧ c.toNat ≤ 90 <;> by_cases hd : 65 ≤ d.toNat ∧ d.toNat ≤ 90
  · rw [toNat_toLower hc, toNat_toLower hd]
    omega
  · rw [toNat_toLower hc, toLower_of_not_capital hd]
    omega
  · rw [toLower_of_not_capital hc, toNat_toLower hd]
    omega
  · rw [toLower_of_not_capital hc, toLower_of_not_capital hd]
    omega

/-- The text in small letters. -/
def lower (s : String) : String := String.ofList (s.toList.map Char.toLower)

theorem sameLetters_iff {s t : String} : SameLetters s t ↔ lower s = lower t := by
  rw [lower, lower, String.ofList_inj, ← List.forall₂_eq_eq_eq, List.forall₂_map_left_iff,
    List.forall₂_map_right_iff]
  simp only [toLower_eq_toLower_iff]
  rfl

end Text

namespace Log.Level

/-! ### Words for levels -/

/-- The words for a level in a configuration, in small letters. -/
def names : Level → List String
  | .warn => ["warn", "warning"]
  | l => [l.word]

/-- The text is a word for the level, whatever the size of its letters. -/
def Named (l : Level) (text : String) : Prop := ∃ name ∈ l.names, Text.SameLetters text name

theorem mem_names_iff {l : Level} {name : String} :
    name ∈ l.names ↔ name = l.word ∨ (l = .warn ∧ name = "warning") := by
  cases l <;> simp [names, word]

theorem word_mem_names (l : Level) : l.word ∈ l.names := mem_names_iff.mpr (.inl rfl)

theorem lower_of_mem_names {l : Level} {name : String} (h : name ∈ l.names) :
    Text.lower name = name := by
  rcases mem_names_iff.mp h with rfl | ⟨_, rfl⟩
  · cases l <;> rfl
  · rfl

theorem named_iff {l : Level} {text : String} : l.Named text ↔ Text.lower text ∈ l.names := by
  refine ⟨?_, ?_⟩
  · intro h
    obtain ⟨name, hname, hsame⟩ := h
    rw [Text.sameLetters_iff.mp hsame, lower_of_mem_names hname]
    exact hname
  · intro h
    exact ⟨Text.lower text, h, Text.sameLetters_iff.mpr (lower_of_mem_names h).symm⟩

theorem named_word (l : Level) : l.Named l.word :=
  ⟨l.word, l.word_mem_names, Text.sameLetters_iff.mpr rfl⟩

theorem tight_word (l : Level) : Text.Tight l.word := by
  have htrim : Text.trim l.word = l.word := by cases l <;> decide
  exact (Text.trimmed_iff.mpr htrim).tight

theorem word_injective {l m : Level} (h : l.word = m.word) : l = m := by
  have hread := congrArg ofWord? h
  rw [ofWord?_word, ofWord?_word] at hread
  exact Option.some.inj hread

end Log.Level

namespace LoggingConfig

open Log (Level)
open Text (Trimmed trimmed_iff trimmed_trim)

/-! ### Levels that stand for a level -/

/-- The configured level says no more than which level is meant: it is blank, which means `info`, or
a word for the level with blanks around it. -/
inductive StandsFor (level : String) : Level → Prop
  | blank (h : Text.AllBlank level) : StandsFor level .info
  | word {text : String} {l : Level} (htrimmed : Trimmed level text) (h : l.Named text) :
      StandsFor level l

theorem standsFor_iff {level : String} {l : Level} :
    StandsFor level l ↔
      (Text.trim level = "" ∧ l = .info) ∨ Text.lower (Text.trim level) ∈ l.names := by
  rw [← Log.Level.named_iff]
  refine ⟨?_, ?_⟩
  · intro h
    cases h with
    | blank h => exact .inl ⟨Text.allBlank_iff.mp h, rfl⟩
    | word htrimmed h => exact .inr (htrimmed.trim_eq ▸ h)
  · intro h
    rcases h with ⟨hblank, rfl⟩ | h
    · exact .blank (Text.allBlank_iff.mpr hblank)
    · exact .word (trimmed_trim level) h

instance (level : String) (l : Level) : Decidable (StandsFor level l) :=
  decidable_of_iff _ standsFor_iff.symm

theorem standsFor_word (l : Level) : StandsFor l.word l :=
  .word l.tight_word.trimmed l.named_word

theorem normalizeLevel_eq (level : String) :
    normalizeLevel level =
      if Text.trim level = "" then defaultLevel
      else if Text.lower (Text.trim level) = "warning" then "warn"
      else if Text.lower (Text.trim level) ∈ Level.all.map Level.word then
        Text.lower (Text.trim level)
      else Text.trim level := rfl

theorem normalizeLevel_congr {a b : String} (h : Text.trim a = Text.trim b) :
    normalizeLevel a = normalizeLevel b := by
  rw [normalizeLevel_eq, normalizeLevel_eq, h]

theorem normalizeLevel_of_standsFor {level : String} {l : Level} (h : StandsFor level l) :
    normalizeLevel level = l.word := by
  rw [normalizeLevel_eq]
  rcases standsFor_iff.mp h with ⟨hblank, rfl⟩ | hname
  · rw [if_pos hblank]
    rfl
  · have hne : Text.trim level ≠ "" := by
      intro hblank
      rw [hblank] at hname
      cases l <;> revert hname <;> decide
    rw [if_neg hne]
    rcases Log.Level.mem_names_iff.mp hname with hword | ⟨rfl, hwarning⟩
    · rw [hword]
      cases l <;> rfl
    · rw [if_pos hwarning]
      rfl

theorem normalizeLevel_of_not_standsFor {level : String} (h : ∀ l, ¬ StandsFor level l) :
    normalizeLevel level = Text.trim level := by
  have hne : Text.trim level ≠ "" :=
    fun hblank => h .info (standsFor_iff.mpr (.inl ⟨hblank, rfl⟩))
  have hnames : ∀ l : Level, Text.lower (Text.trim level) ∉ l.names :=
    fun l hname => h l (standsFor_iff.mpr (.inr hname))
  rw [normalizeLevel_eq, if_neg hne, if_neg, if_neg]
  · intro hmem
    obtain ⟨l, -, hword⟩ := List.mem_map.mp hmem
    exact hnames l (hword ▸ l.word_mem_names)
  · intro hwarning
    exact hnames .warn (Log.Level.mem_names_iff.mpr (.inr ⟨rfl, hwarning⟩))

/-! ### Normal forms -/

/-- All that can become of a configured level. -/
theorem normalizeLevel_cases (level : String) :
    (∃ l, StandsFor level l ∧ normalizeLevel level = l.word) ∨
      (∀ l, ¬ StandsFor level l) ∧ normalizeLevel level = Text.trim level := by
  by_cases h : ∃ l, StandsFor level l
  · obtain ⟨l, hl⟩ := h
    exact .inl ⟨l, hl, normalizeLevel_of_standsFor hl⟩
  · have hnone := not_exists.mp h
    exact .inr ⟨hnone, normalizeLevel_of_not_standsFor hnone⟩

theorem normalizeLevel_eq_word_iff {level : String} {l : Level} :
    normalizeLevel level = l.word ↔ StandsFor level l := by
  refine ⟨?_, normalizeLevel_of_standsFor⟩
  intro h
  rcases normalizeLevel_cases level with ⟨m, hm, hword⟩ | ⟨_, hkept⟩
  · exact Level.word_injective (hword.symm.trans h) ▸ hm
  · -- The text that is kept is the word, so it stands for the level after all.
    exact .word (trimmed_iff.mpr (hkept.symm.trans h)) l.named_word

theorem normalizeLevel_ne_empty (level : String) : normalizeLevel level ≠ "" := by
  rcases normalizeLevel_cases level with ⟨l, _, hword⟩ | ⟨hnone, hkept⟩
  · rw [hword]
    cases l <;> decide
  · rw [hkept]
    intro hblank
    exact hnone .info (.blank (Text.allBlank_iff.mpr hblank))

theorem tight_normalizeLevel (level : String) : Text.Tight (normalizeLevel level) := by
  rcases normalizeLevel_cases level with ⟨l, _, hword⟩ | ⟨_, hkept⟩
  · rw [hword]
    exact l.tight_word
  · rw [hkept]
    exact (trimmed_trim level).tight

theorem normalizeLevel_normalizeLevel (level : String) :
    normalizeLevel (normalizeLevel level) = normalizeLevel level := by
  rcases normalizeLevel_cases level with ⟨l, _, hword⟩ | ⟨_, hkept⟩
  · rw [hword]
    exact normalizeLevel_of_standsFor (standsFor_word l)
  · refine normalizeLevel_congr ?_
    rw [(tight_normalizeLevel level).trimmed.trim_eq, hkept]

/-- Two levels become the same text only if they stand for one level, or agree but for the blanks
around them. -/
theorem normalizeLevel_eq_normalizeLevel_iff {a b : String} :
    normalizeLevel a = normalizeLevel b ↔
      (∃ l, StandsFor a l ∧ StandsFor b l) ∨ ∃ text, Trimmed a text ∧ Trimmed b text := by
  refine ⟨?_, ?_⟩
  · intro h
    rcases normalizeLevel_cases a with ⟨l, ha, hword⟩ | ⟨_, ha⟩
    · exact .inl ⟨l, ha, normalizeLevel_eq_word_iff.mp (h.symm.trans hword)⟩
    · rcases normalizeLevel_cases b with ⟨l, hb, hword⟩ | ⟨_, hb⟩
      · exact .inl ⟨l, normalizeLevel_eq_word_iff.mp (h.trans hword), hb⟩
      · have hsame : Text.trim b = Text.trim a := hb.symm.trans (h.symm.trans ha)
        exact .inr ⟨Text.trim a, trimmed_trim a, trimmed_iff.mpr hsame⟩
  · intro h
    rcases h with ⟨l, ha, hb⟩ | ⟨text, ha, hb⟩
    · rw [normalizeLevel_of_standsFor ha, normalizeLevel_of_standsFor hb]
    · exact normalizeLevel_congr (ha.trim_eq.trans hb.trim_eq.symm)

/-- **A configured level has one normal form.** It is never empty, has no blanks around it, is its
own normal form, and stays the same when blanks are put around the level. It is the word for a level
if and only if the level stands for it. Otherwise it is the configured text without the blanks
around it, and no character inside is touched. So the size of letters is ignored in words for levels
and nowhere else: levels with one normal form stand for one level or agree but for the blanks around
them. -/
theorem normalizeLevel_ignores_padding_and_case_of_words (level : String) :
    (normalizeLevel level ≠ "" ∧ Text.Tight (normalizeLevel level)) ∧
    normalizeLevel (normalizeLevel level) = normalizeLevel level ∧
    (∀ before after, Text.AllBlank before → Text.AllBlank after →
      normalizeLevel (before ++ level ++ after) = normalizeLevel level) ∧
    (∀ l : Level, normalizeLevel level = l.word ↔ StandsFor level l) ∧
    ((∀ l : Level, ¬ StandsFor level l) → Trimmed level (normalizeLevel level)) ∧
    ∀ other, normalizeLevel other = normalizeLevel level ↔
      (∃ l, StandsFor other l ∧ StandsFor level l) ∨
        ∃ text, Trimmed other text ∧ Trimmed level text := by
  refine ⟨⟨normalizeLevel_ne_empty level, tight_normalizeLevel level⟩,
    normalizeLevel_normalizeLevel level, ?_, fun l => normalizeLevel_eq_word_iff, ?_,
    fun other => normalizeLevel_eq_normalizeLevel_iff⟩
  · intro before after hbefore hafter
    exact normalizeLevel_congr (Text.trim_append hbefore hafter)
  · intro h
    rw [normalizeLevel_of_not_standsFor h]
    exact trimmed_trim level

/-- A word among blanks that are not all of ASCII, in letters of both sizes, and a word whose first
letter is a dotless `i`: the one means `warn`, and the other is kept but for the blank in front. -/
theorem paddedWarning_is_word_and_dotlessInfo_is_kept :
    (Text.AllBlank "\u3000" ∧ Text.AllBlank "\t\n" ∧ StandsFor "wArNiNg" .warn ∧
      normalizeLevel ("\u3000" ++ "wArNiNg" ++ "\t\n") = "warn") ∧
    (∀ l, ¬ StandsFor " \u0131NFO" l) ∧
      Trimmed " \u0131NFO" (normalizeLevel " \u0131NFO") := by
  have hfront : Text.AllBlank "\u3000" := by decide
  have hback : Text.AllBlank "\t\n" := by decide
  have hwarning : StandsFor "wArNiNg" .warn := by decide
  have hdotless : ∀ l, ¬ StandsFor " \u0131NFO" l := by
    intro l
    cases l <;> decide
  obtain ⟨_, _, hpadding, hword, _⟩ := normalizeLevel_ignores_padding_and_case_of_words "wArNiNg"
  obtain ⟨_, _, _, _, hkept, _⟩ := normalizeLevel_ignores_padding_and_case_of_words " \u0131NFO"
  exact ⟨⟨hfront, hback, hwarning,
    (hpadding _ _ hfront hback).trans ((hword .warn).mpr hwarning)⟩, hdotless, hkept hdotless⟩

end LoggingConfig

end JavaChecker
