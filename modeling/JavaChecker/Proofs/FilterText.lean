import JavaChecker.Config.Level
import JavaChecker.Log.Filter
import Mathlib.Logic.Basic

/-!
# JavaChecker.Proofs.FilterText

Reading a filter from two texts, the configured level and the directives of the environment, in any
language of directives. A text is read piece by piece. It is `Valid` if every piece is a directive,
it `BreaksOff` if the reading of the first piece that is none breaks off, and otherwise it is merely
not a list of directives.

The two halves are joined by a comma, and no piece reaches across it, so the joined text is read as
its halves are, one after the other (`parseDirectives_join`). From this follows which halves make up
the filter. A half that is not valid is left out for the other one, unless it breaks off: then there
is no filter at all, whatever the other half says.
-/

namespace JavaChecker

namespace Log

namespace FilterLanguage

variable {δ φ : Type} {lang : FilterLanguage δ φ}

/-! ### What a text is read as -/

/-- The pieces of a text that are not empty. -/
def pieces (s : String) : List (List Char) := (Text.pieces ',' s.toList).filter (!·.isEmpty)

/-- Every piece is a directive. -/
def Valid (lang : FilterLanguage δ φ) (s : String) : Prop :=
  ∀ p ∈ pieces s, ∃ d, lang.read p = .ok d

theorem isOk_read_iff {p : List Char} : (lang.read p).isOk = true ↔ ∃ d, lang.read p = .ok d := by
  cases lang.read p <;> simp [Except.isOk, Except.toBool]

instance (lang : FilterLanguage δ φ) (s : String) : Decidable (lang.Valid s) :=
  decidable_of_iff (∀ p ∈ pieces s, (lang.read p).isOk = true)
    (forall₂_congr fun _ _ => isOk_read_iff)

/-- The reading of a piece breaks off, and the pieces before it are directives. -/
def BreaksOff (lang : FilterLanguage δ φ) (s : String) : Prop :=
  ∃ front p back, pieces s = front ++ p :: back ∧ (∀ q ∈ front, ∃ d, lang.read q = .ok d) ∧
    lang.read p = .error .brokenOff

/-- The directives among the pieces of a text. -/
def directivesIn (lang : FilterLanguage δ φ) (s : String) : List δ :=
  (pieces s).filterMap fun p => (lang.read p).toOption

theorem pieces_join (a b : String) : pieces (a ++ "," ++ b) = pieces a ++ pieces b := by
  have hchars : (a ++ "," ++ b).toList = a.toList ++ ',' :: b.toList := by simp
  rw [pieces, hchars, Text.pieces_append, List.filter_append]
  rfl

/-- **The joined text is read as its halves are**, one after the other. -/
theorem parseDirectives_join (lang : FilterLanguage δ φ) (a b : String) :
    lang.parseDirectives (a ++ "," ++ b) =
      (lang.parseDirectives a).bind fun ds => (lang.parseDirectives b).map (ds ++ ·) := by
  show (pieces (a ++ "," ++ b)).mapM lang.read = _
  rw [pieces_join, List.mapM_append]
  rfl

theorem mapM_read_of_forall {ps : List (List Char)} (h : ∀ p ∈ ps, ∃ d, lang.read p = .ok d) :
    ps.mapM lang.read = .ok (ps.filterMap fun p => (lang.read p).toOption) := by
  induction ps with
  | nil => rfl
  | cons p ps ih =>
      rw [List.forall_mem_cons] at h
      obtain ⟨⟨d, hd⟩, hps⟩ := h
      rw [List.mapM_cons, ih hps, hd, List.filterMap_cons_some (by rw [hd]; rfl)]
      rfl

theorem forall_ok_or_first_error (lang : FilterLanguage δ φ) (ps : List (List Char)) :
    (∀ p ∈ ps, ∃ d, lang.read p = .ok d) ∨
      ∃ front p back e, ps = front ++ p :: back ∧ (∀ q ∈ front, ∃ d, lang.read q = .ok d) ∧
        lang.read p = .error e := by
  induction ps with
  | nil => exact .inl (by simp)
  | cons p ps ih =>
      cases hp : lang.read p with
      | error e => exact .inr ⟨[], p, ps, e, rfl, by simp, hp⟩
      | ok d =>
          rcases ih with hall | ⟨front, q, back, e, rfl, hfront, hq⟩
          · exact .inl (List.forall_mem_cons.mpr ⟨⟨d, hp⟩, hall⟩)
          · exact .inr ⟨p :: front, q, back, e, rfl,
              List.forall_mem_cons.mpr ⟨⟨d, hp⟩, hfront⟩, hq⟩

theorem parseDirectives_of_valid {s : String} (h : lang.Valid s) :
    lang.parseDirectives s = .ok (lang.directivesIn s) :=
  mapM_read_of_forall h

/-- The first piece that is no directive says why the text is not read. -/
theorem parseDirectives_of_first {s : String} {front back : List (List Char)} {p : List Char}
    {e : FilterError} (hpieces : pieces s = front ++ p :: back)
    (hfront : ∀ q ∈ front, ∃ d, lang.read q = .ok d) (hp : lang.read p = .error e) :
    lang.parseDirectives s = .error e := by
  show (pieces s).mapM lang.read = _
  rw [hpieces, List.mapM_append, mapM_read_of_forall hfront, List.mapM_cons, hp]
  rfl

theorem parseDirectives_of_breaksOff {s : String} (h : lang.BreaksOff s) :
    lang.parseDirectives s = .error .brokenOff := by
  obtain ⟨front, p, back, hpieces, hfront, hp⟩ := h
  exact parseDirectives_of_first hpieces hfront hp

theorem parseDirectives_of_invalid {s : String} (hvalid : ¬ lang.Valid s)
    (hbreaks : ¬ lang.BreaksOff s) : lang.parseDirectives s = .error .notDirective := by
  rcases forall_ok_or_first_error lang (pieces s) with
    hall | ⟨front, p, back, e, hpieces, hfront, hp⟩
  · exact absurd hall hvalid
  · cases e with
    | notDirective => exact parseDirectives_of_first hpieces hfront hp
    | brokenOff => exact absurd ⟨front, p, back, hpieces, hfront, hp⟩ hbreaks

theorem breaksOff_iff {s : String} :
    lang.BreaksOff s ↔ lang.parseDirectives s = .error .brokenOff := by
  refine ⟨parseDirectives_of_breaksOff, ?_⟩
  intro h
  refine Classical.byContradiction fun hbreaks => ?_
  by_cases hvalid : lang.Valid s
  · rw [parseDirectives_of_valid hvalid] at h
    cases h
  · rw [parseDirectives_of_invalid hvalid hbreaks] at h
    cases h

instance (lang : FilterLanguage δ φ) (s : String) : Decidable (lang.BreaksOff s) :=
  match h : lang.parseDirectives s with
  | .error .brokenOff => .isTrue (breaksOff_iff.mpr h)
  | .error .notDirective => .isFalse fun hbreaks => nomatch h.symm.trans (breaksOff_iff.mp hbreaks)
  | .ok _ => .isFalse fun hbreaks => nomatch h.symm.trans (breaksOff_iff.mp hbreaks)

/-! ### Two halves -/

/-- The filter that a configured half and perhaps one from the environment ask for, where a half
that is not valid is left out. -/
inductive OfHalves (lang : FilterLanguage δ φ) (a : String) : Option String → φ → Prop where
  | both {b : String} : lang.Valid a → lang.Valid b →
      OfHalves lang a (some b) (lang.build (lang.directivesIn a ++ lang.directivesIn b))
  | environment {b : String} : ¬ lang.Valid a → lang.Valid b →
      OfHalves lang a (some b) (lang.build (lang.directivesIn b))
  | level {b? : Option String} : lang.Valid a → (∀ b, b? = some b → ¬ lang.Valid b) →
      OfHalves lang a b? (lang.build (lang.directivesIn a))
  | neither {b? : Option String} : ¬ lang.Valid a → (∀ b, b? = some b → ¬ lang.Valid b) →
      OfHalves lang a b? (lang.ofLevel .info)

/-- One of the halves breaks off. -/
def HalfBreaksOff (lang : FilterLanguage δ φ) (a : String) (b? : Option String) : Prop :=
  lang.BreaksOff a ∨ ∃ b, b? = some b ∧ lang.BreaksOff b

instance (lang : FilterLanguage δ φ) (a : String) :
    (b? : Option String) → Decidable (lang.HalfBreaksOff a b?)
  | none => decidable_of_iff (lang.BreaksOff a) (by simp [HalfBreaksOff])
  | some b => decidable_of_iff (lang.BreaksOff a ∨ lang.BreaksOff b) (by simp [HalfBreaksOff])

theorem parseOr_of_ok {s : String} {ds : List δ} (h : lang.parseDirectives s = .ok ds)
    (other : Except FilterError φ) : lang.parseOr s other = .ok (lang.build ds) := by
  simp [parseOr, parse, h, Except.map]

theorem parseOr_of_notDirective {s : String} (h : lang.parseDirectives s = .error .notDirective)
    (other : Except FilterError φ) : lang.parseOr s other = other := by
  simp [parseOr, parse, h, Except.map]

theorem parseOr_of_brokenOff {s : String} (h : lang.parseDirectives s = .error .brokenOff)
    (other : Except FilterError φ) : lang.parseOr s other = .error .brokenOff := by
  simp [parseOr, parse, h, Except.map]

theorem parseDirectives_join_of_ok {a b : String} {ds : List δ}
    (h : lang.parseDirectives a = .ok ds) :
    lang.parseDirectives (a ++ "," ++ b) = (lang.parseDirectives b).map (ds ++ ·) := by
  rw [parseDirectives_join, h]
  rfl

theorem parseDirectives_join_of_error {a b : String} {e : FilterError}
    (h : lang.parseDirectives a = .error e) :
    lang.parseDirectives (a ++ "," ++ b) = .error e := by
  rw [parseDirectives_join, h]
  rfl

end FilterLanguage

end Log

namespace LoggingConfig

open Log (FilterLanguage)
open Log.FilterLanguage

variable {δ φ : Type} {lang : FilterLanguage δ φ} {c : LoggingConfig} {environment : Option String}

theorem filter_of_environment {r : String} (h : environmentText? environment = some r) :
    c.filter lang environment =
      lang.parseOr (normalizeLevel c.level ++ "," ++ r)
        (lang.parseOr r (c.configFilter lang)) := by
  rw [filter, h]

theorem filter_of_no_environment (h : environmentText? environment = none) :
    c.filter lang environment = c.configFilter lang := by
  rw [filter, h]

theorem filter_of_halfBreaksOff
    (h : lang.HalfBreaksOff (normalizeLevel c.level) (environmentText? environment)) :
    c.filter lang environment = .error .brokenOff := by
  cases henv : environmentText? environment with
  | none =>
      have hlevel : lang.BreaksOff (normalizeLevel c.level) := by
        simpa [HalfBreaksOff, henv] using h
      rw [filter_of_no_environment henv, configFilter,
        parseOr_of_brokenOff (parseDirectives_of_breaksOff hlevel)]
  | some r =>
      rw [filter_of_environment henv]
      have hhalves : lang.BreaksOff (normalizeLevel c.level) ∨ lang.BreaksOff r := by
        simpa [HalfBreaksOff, henv] using h
      rcases hhalves with hlevel | hr
      -- A level that breaks off ends the reading before the environment is looked at.
      · rw [parseOr_of_brokenOff
          (parseDirectives_join_of_error (parseDirectives_of_breaksOff hlevel))]
      · have hr := parseDirectives_of_breaksOff hr
        cases hlevel : lang.parseDirectives (normalizeLevel c.level) with
        | ok ds =>
            rw [parseOr_of_brokenOff (by rw [parseDirectives_join_of_ok hlevel, hr]; rfl)]
        | error e =>
            have hjoined := parseDirectives_join_of_error (b := r) hlevel
            cases e with
            | brokenOff => rw [parseOr_of_brokenOff hjoined]
            | notDirective => rw [parseOr_of_notDirective hjoined, parseOr_of_brokenOff hr]

theorem ofHalves_configFilter {b? : Option String} (hb : ∀ b, b? = some b → ¬ lang.Valid b)
    (h : ¬ lang.BreaksOff (normalizeLevel c.level)) :
    ∃ f, c.configFilter lang = .ok f ∧ lang.OfHalves (normalizeLevel c.level) b? f := by
  by_cases hvalid : lang.Valid (normalizeLevel c.level)
  · exact ⟨_, parseOr_of_ok (parseDirectives_of_valid hvalid) _, .level hvalid hb⟩
  · exact ⟨_, parseOr_of_notDirective (parseDirectives_of_invalid hvalid h) _, .neither hvalid hb⟩

theorem ofHalves_filter
    (h : ¬ lang.HalfBreaksOff (normalizeLevel c.level) (environmentText? environment)) :
    ∃ f, c.filter lang environment = .ok f ∧
      lang.OfHalves (normalizeLevel c.level) (environmentText? environment) f := by
  obtain ⟨hlevel, hr⟩ := not_or.mp h
  cases henv : environmentText? environment with
  | none =>
      rw [filter_of_no_environment henv]
      exact ofHalves_configFilter (by simp) hlevel
  | some r =>
      have hr : ¬ lang.BreaksOff r := fun hbreaks => hr ⟨r, henv, hbreaks⟩
      rw [filter_of_environment henv]
      by_cases hvalid : lang.Valid r
      · have hread := parseDirectives_of_valid hvalid
        by_cases hlevelValid : lang.Valid (normalizeLevel c.level)
        · have hjoined := parseDirectives_join_of_ok (b := r) (parseDirectives_of_valid hlevelValid)
          rw [hread] at hjoined
          exact ⟨_, parseOr_of_ok hjoined _, .both hlevelValid hvalid⟩
        · rw [parseOr_of_notDirective (parseDirectives_join_of_error
            (parseDirectives_of_invalid hlevelValid hlevel))]
          exact ⟨_, parseOr_of_ok hread _, .environment hlevelValid hvalid⟩
      · -- The environment is left out: neither the joined text nor the environment alone is read.
        have hread := parseDirectives_of_invalid hvalid hr
        have hjoined : lang.parseDirectives (normalizeLevel c.level ++ "," ++ r) =
            .error .notDirective := by
          by_cases hlevelValid : lang.Valid (normalizeLevel c.level)
          · rw [parseDirectives_join_of_ok (parseDirectives_of_valid hlevelValid), hread]
            rfl
          · exact parseDirectives_join_of_error (parseDirectives_of_invalid hlevelValid hlevel)
        rw [parseOr_of_notDirective hjoined, parseOr_of_notDirective hread]
        exact ofHalves_configFilter (by simpa using hvalid) hlevel

/-- **A half that is not valid is left out, and the other one makes up the filter**, with `info` if
neither is valid; directives of the environment follow those of the level. This holds in every
language of directives. There always is a filter, except when a half breaks off: then nothing makes
up for it, and a valid half is lost with the other. -/
theorem filter_leaves_out_invalid_half (lang : FilterLanguage δ φ) (c : LoggingConfig)
    (environment : Option String) :
    (¬ lang.HalfBreaksOff (normalizeLevel c.level) (environmentText? environment) →
      ∃ f, c.filter lang environment = .ok f ∧
        lang.OfHalves (normalizeLevel c.level) (environmentText? environment) f) ∧
    (lang.HalfBreaksOff (normalizeLevel c.level) (environmentText? environment) →
      c.filter lang environment = .error .brokenOff) :=
  ⟨ofHalves_filter, filter_of_halfBreaksOff⟩

/-- The level holds a piece that breaks off, and the environment is valid: its directive asks for
every event of `app`, but there is no filter. -/
theorem filter_lost_to_half_that_breaks_off :
    (∃ f, Log.Filter.plain.OfHalves (normalizeLevel "info,\u3000a=debug")
      (environmentText? (some "app=trace")) f ∧ f.allows "app" .trace = true) ∧
    filter Log.Filter.plain { level := "info,\u3000a=debug" } (some "app=trace") =
      .error .brokenOff := by
  have hlevel : ¬ Log.Filter.plain.Valid (normalizeLevel "info,\u3000a=debug") := by decide
  have hvalid : Log.Filter.plain.Valid "app=trace" := by decide
  rw [show environmentText? (some "app=trace") = some "app=trace" by decide]
  exact ⟨⟨_, .environment hlevel hvalid, by decide⟩, rfl⟩

end LoggingConfig

end JavaChecker
