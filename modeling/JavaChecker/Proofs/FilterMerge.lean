import JavaChecker.Proofs.FilterText
import Mathlib.Data.List.Induction

/-!
# JavaChecker.Proofs.FilterMerge

Which directive of a list decides about an event. `Governs` says it of the list as it was given: the
directive covers the event's target, none that covers it has a longer target, and none with the same
target comes later. A filter keeps one directive for each target and looks for the longest, and that
is the same (`governing?_ofDirectives`). Since all targets that cover an event begin its own target,
two of one length are one target, and so at most one directive governs (`Governs.unique`).

For one list after another this says who decides. The later list does if one of its directives
covers the target and none that covers it in the earlier list has a longer one (`Outranks`);
otherwise the earlier one decides as if it were alone (`governing?_append`).
-/

namespace JavaChecker

namespace Log

namespace Filter

variable {ds es : List Directive} {d e : Directive} {target : String}

/-! ### The directives that a filter keeps -/

/-- The last directive of the list with its target. -/
def Last (ds : List Directive) (d : Directive) : Prop :=
  ∃ front back, ds = front ++ d :: back ∧ ∀ e ∈ back, e.target ≠ d.target

theorem Last.mem (h : Last ds d) : d ∈ ds := by
  obtain ⟨front, back, rfl, -⟩ := h
  simp

theorem last_concat_iff : Last (ds ++ [e]) d ↔ d = e ∨ (Last ds d ∧ e.target ≠ d.target) := by
  refine ⟨?_, ?_⟩
  · rintro ⟨front, back, heq, hback⟩
    rcases List.eq_nil_or_concat back with rfl | ⟨back, x, rfl⟩
    · obtain ⟨-, hlast⟩ := List.append_inj' heq rfl
      exact .inl (List.cons.inj hlast).1.symm
    · have hsplit : ds ++ [e] = (front ++ d :: back) ++ [x] := by simpa using heq
      obtain ⟨hds, hlast⟩ := List.append_inj' hsplit rfl
      cases hlast
      refine .inr ⟨⟨front, back, hds, fun y hy => hback y (by simp [hy])⟩, hback e (by simp)⟩
  · rintro (rfl | ⟨⟨front, back, rfl, hback⟩, hne⟩)
    · exact ⟨ds, [], rfl, by simp⟩
    · refine ⟨front, back ++ [e], by simp, ?_⟩
      simpa [or_imp, forall_and] using ⟨hback, hne⟩

theorem mem_insert_iff {f : Filter} :
    d ∈ (f.insert e).directives ↔ d = e ∨ (d ∈ f.directives ∧ e.target ≠ d.target) := by
  simp [insert, or_comm, ne_comm]

theorem mem_ofDirectives_iff : d ∈ (ofDirectives ds).directives ↔ Last ds d := by
  induction ds using List.reverseRecOn with
  | nil => simp [ofDirectives, Last]
  | append_singleton ds e ih =>
      rw [last_concat_iff, ← ih, ofDirectives, List.foldl_append]
      exact mem_insert_iff

/-! ### The directive that decides -/

/-- The directive decides about events with this target: it covers the target, none that does so has
a longer one, and none with the same target comes later. -/
structure Governs (ds : List Directive) (target : String) (d : Directive) : Prop where
  last : Last ds d
  covers : d.covers target = true
  longest : ∀ e ∈ ds, e.covers target = true → e.target.length ≤ d.target.length

/-- Targets of one length that cover the same are the same. -/
theorem target_eq_of_covers (hd : d.covers target = true) (he : e.covers target = true)
    (hlength : d.target.length = e.target.length) : d.target = e.target := by
  rw [Directive.covers, List.isPrefixOf_iff_prefix] at hd he
  exact (List.prefix_of_prefix_length_le hd he (Nat.le_of_eq hlength)).eq_of_length hlength

theorem Last.unique (hd : Last ds d) (he : Last ds e) (htarget : d.target = e.target) : d = e := by
  induction ds using List.reverseRecOn with
  | nil => exact absurd hd.mem (by simp)
  | append_singleton ds x ih =>
      rcases last_concat_iff.mp hd with rfl | ⟨hd, hxd⟩ <;>
        rcases last_concat_iff.mp he with rfl | ⟨he, hxe⟩
      · rfl
      · exact absurd htarget hxe
      · exact absurd htarget.symm hxd
      · exact ih hd he

/-- Every directive gives way to the last one with its target. -/
theorem exists_last_of_mem (h : e ∈ ds) : ∃ d, Last ds d ∧ d.target = e.target := by
  induction ds using List.reverseRecOn with
  | nil => cases h
  | append_singleton ds x ih =>
      by_cases hx : x.target = e.target
      · exact ⟨x, last_concat_iff.mpr (.inl rfl), hx⟩
      · have hmem : e ∈ ds := by
          rcases List.mem_append.mp h with hds | hlast
          · exact hds
          · exact absurd (congrArg Directive.target (List.mem_singleton.mp hlast).symm) hx
        obtain ⟨d, hd, htarget⟩ := ih hmem
        exact ⟨d, last_concat_iff.mpr (.inr ⟨hd, htarget ▸ hx⟩), htarget⟩

theorem Governs.unique (hd : Governs ds target d) (he : Governs ds target e) : d = e := by
  have hlength : d.target.length = e.target.length :=
    Nat.le_antisymm (he.longest d hd.last.mem hd.covers) (hd.longest e he.last.mem he.covers)
  exact hd.last.unique he.last (target_eq_of_covers hd.covers he.covers hlength)

/-- The search for the longest target ends with one of the directives that it sees. -/
theorem exists_foldl_moreSpecific (b : Directive) (l : List Directive) :
    ∃ d, l.foldl moreSpecific (some b) = some d ∧ d ∈ b :: l ∧
      ∀ e ∈ b :: l, e.target.length ≤ d.target.length := by
  induction l generalizing b with
  | nil => exact ⟨b, rfl, by simp, by simp⟩
  | cons a l ih =>
      by_cases hlonger : b.target.length < a.target.length
      · obtain ⟨d, hfold, hmem, hmax⟩ := ih a
        refine ⟨d, by simpa [moreSpecific, hlonger] using hfold, List.mem_cons_of_mem b hmem, ?_⟩
        rw [List.forall_mem_cons]
        exact ⟨Nat.le_trans (Nat.le_of_lt hlonger) (hmax a List.mem_cons_self), hmax⟩
      · obtain ⟨d, hfold, hmem, hmax⟩ := ih b
        rw [List.forall_mem_cons] at hmax
        refine ⟨d, by simpa [moreSpecific, hlonger] using hfold, ?_, ?_⟩
        · rcases List.mem_cons.mp hmem with rfl | hmem
          · simp
          · simp [hmem]
        · rw [List.forall_mem_cons, List.forall_mem_cons]
          exact ⟨hmax.1, Nat.le_trans (Nat.le_of_not_lt hlonger) hmax.1, hmax.2⟩

/-- What `governing?` finds covers the target and is the longest to do so; without a directive that
covers the target there is nothing to find. -/
theorem governing?_spec (f : Filter) (target : String) :
    (f.governing? target = none ∧ ∀ e ∈ f.directives, ¬ e.covers target = true) ∨
      ∃ d, f.governing? target = some d ∧ d ∈ f.directives ∧ d.covers target = true ∧
        ∀ e ∈ f.directives, e.covers target = true → e.target.length ≤ d.target.length := by
  cases hl : f.directives.filter (·.covers target) with
  | nil => exact .inl ⟨by simp [governing?, hl], by simpa using hl⟩
  | cons b l =>
      obtain ⟨d, hfold, hmem, hmax⟩ := exists_foldl_moreSpecific b l
      rw [← hl, List.mem_filter] at hmem
      refine .inr ⟨d, by simpa [governing?, hl, moreSpecific] using hfold, hmem.1, hmem.2, ?_⟩
      intro e he hcovers
      exact hmax e (by rw [← hl]; exact List.mem_filter.mpr ⟨he, hcovers⟩)

theorem governing?_ofDirectives_eq_none_iff :
    (ofDirectives ds).governing? target = none ↔ ∀ e ∈ ds, ¬ e.covers target = true := by
  rcases governing?_spec (ofDirectives ds) target with ⟨hnone, hall⟩ | ⟨d, hsome, hd, hcovers, -⟩
  · rw [hnone, eq_self, true_iff]
    intro e he hcovers
    -- The directive that is kept for this target covers what this one does.
    obtain ⟨kept, hkept, htarget⟩ := exists_last_of_mem he
    refine hall kept (mem_ofDirectives_iff.mpr hkept) ?_
    rwa [Directive.covers, htarget]
  · rw [hsome]
    refine iff_of_false (by simp) ?_
    intro hall
    exact hall d (mem_ofDirectives_iff.mp hd).mem hcovers

/-- **The filter of a list of directives is governed as the list is.** -/
theorem governing?_ofDirectives :
    (ofDirectives ds).governing? target = some d ↔ Governs ds target d := by
  rcases governing?_spec (ofDirectives ds) target with ⟨hnone, hall⟩ | ⟨b, hsome, hb, hcovers, hmax⟩
  · rw [hnone]
    refine iff_of_false (by simp) ?_
    intro h
    exact hall d (mem_ofDirectives_iff.mpr h.last) h.covers
  · have hgoverns : Governs ds target b := by
      refine ⟨mem_ofDirectives_iff.mp hb, hcovers, ?_⟩
      intro e he hecovers
      obtain ⟨kept, hkept, htarget⟩ := exists_last_of_mem he
      rw [← htarget]
      exact hmax kept (mem_ofDirectives_iff.mpr hkept) (by rwa [Directive.covers, htarget])
    rw [hsome, Option.some.injEq]
    exact ⟨fun heq => heq ▸ hgoverns, hgoverns.unique⟩

/-! ### One list after another -/

/-- The later list has a directive that covers the target, and no directive of the earlier list that
covers it has a longer target. -/
def Outranks (later earlier : List Directive) (target : String) : Prop :=
  ∃ d ∈ later, d.covers target = true ∧
    ∀ e ∈ earlier, e.covers target = true → e.target.length ≤ d.target.length

instance (later earlier : List Directive) (target : String) :
    Decidable (Outranks later earlier target) :=
  inferInstanceAs (Decidable (∃ d ∈ later, d.covers target = true ∧
    ∀ e ∈ earlier, e.covers target = true → e.target.length ≤ d.target.length))

theorem Governs.of_outranks (h : Governs es target d) (hout : Outranks es ds target) :
    Governs (ds ++ es) target d := by
  obtain ⟨front, back, rfl, hback⟩ := h.last
  refine ⟨⟨ds ++ front, back, by simp, hback⟩, h.covers, ?_⟩
  intro e he hcovers
  rcases List.mem_append.mp he with hds | hes
  · obtain ⟨x, hx, hxcovers, hlonger⟩ := hout
    exact Nat.le_trans (hlonger e hds hcovers) (h.longest x hx hxcovers)
  · exact h.longest e hes hcovers

theorem Governs.of_not_outranks (h : Governs ds target d) (hout : ¬ Outranks es ds target) :
    Governs (ds ++ es) target d := by
  -- What covers the target in the later list is shorter than something in the earlier one.
  have hshorter : ∀ e ∈ es, e.covers target = true → e.target.length < d.target.length := by
    intro e he hcovers
    by_contra hlong
    refine hout ⟨e, he, hcovers, fun x hx hxcovers => ?_⟩
    exact Nat.le_trans (h.longest x hx hxcovers) (Nat.le_of_not_lt hlong)
  have hother : ∀ e ∈ es, e.target ≠ d.target := by
    intro e he htarget
    have hcovers : e.covers target = true := by rw [Directive.covers, htarget]; exact h.covers
    exact absurd (hshorter e he hcovers) (by rw [htarget]; exact Nat.lt_irrefl _)
  obtain ⟨front, back, hds, hback⟩ := h.last
  refine ⟨⟨front, back ++ es, by simp [hds], ?_⟩, h.covers, ?_⟩
  · intro e he
    exact (List.mem_append.mp he).elim (hback e) (hother e)
  · intro e he hcovers
    rcases List.mem_append.mp he with hearlier | hlater
    · exact h.longest e hearlier hcovers
    · exact Nat.le_of_lt (hshorter e hlater hcovers)

/-- **Of two lists, the later one decides where it outranks the earlier one**, and the earlier one
everywhere else. -/
theorem governing?_append (ds es : List Directive) (target : String) :
    (ofDirectives (ds ++ es)).governing? target =
      if Outranks es ds target then (ofDirectives es).governing? target
      else (ofDirectives ds).governing? target := by
  split
  · next hout =>
      cases hes : (ofDirectives es).governing? target with
      | some d =>
          exact governing?_ofDirectives.mpr ((governing?_ofDirectives.mp hes).of_outranks hout)
      | none =>
          obtain ⟨d, hd, hcovers, -⟩ := hout
          exact absurd hcovers (governing?_ofDirectives_eq_none_iff.mp hes d hd)
  · next hout =>
      cases hds : (ofDirectives ds).governing? target with
      | some d =>
          exact governing?_ofDirectives.mpr ((governing?_ofDirectives.mp hds).of_not_outranks hout)
      | none =>
          have hnone := governing?_ofDirectives_eq_none_iff.mp hds
          rw [governing?_ofDirectives_eq_none_iff]
          intro e he hcovers
          rcases List.mem_append.mp he with hearlier | hlater
          · exact hnone e hearlier hcovers
          · exact hout ⟨e, hlater, hcovers, fun x hx hx' => absurd hx' (hnone x hx)⟩

end Filter

end Log

namespace LoggingConfig

open Log (Directive FilterError)
open Log.Filter Log.FilterLanguage

/-- **The environment overrides the level target by target, and only there.** With both halves
valid, an event is decided as by the environment alone if a directive of the environment covers its
target and no directive of the level that covers it has a longer one. Every other event is decided
as if there were no environment. It does not matter how a piece is read as a directive. -/
theorem environment_overrides_level_per_target (read : List Char → Except FilterError Directive)
    (c : LoggingConfig) (environment : Option String) (r : String)
    (henv : environmentText? environment = some r)
    (hlevel : (language read).Valid (normalizeLevel c.level)) (hr : (language read).Valid r) :
    ∃ merged ofLevel ofEnvironment,
      c.filter (language read) environment = .ok merged ∧
      c.filter (language read) none = .ok ofLevel ∧
      (language read).parse r = .ok ofEnvironment ∧
      ∀ target level,
        (Outranks ((language read).directivesIn r)
            ((language read).directivesIn (normalizeLevel c.level)) target →
          merged.allows target level = ofEnvironment.allows target level) ∧
        (¬ Outranks ((language read).directivesIn r)
            ((language read).directivesIn (normalizeLevel c.level)) target →
          merged.allows target level = ofLevel.allows target level) := by
  have hreadLevel := parseDirectives_of_valid hlevel
  have hreadEnv := parseDirectives_of_valid hr
  have hjoined : (language read).parseDirectives (normalizeLevel c.level ++ "," ++ r) =
      .ok ((language read).directivesIn (normalizeLevel c.level) ++
        (language read).directivesIn r) := by
    rw [parseDirectives_join_of_ok hreadLevel, hreadEnv]
    rfl
  refine ⟨.ofDirectives ((language read).directivesIn (normalizeLevel c.level) ++
      (language read).directivesIn r),
    .ofDirectives ((language read).directivesIn (normalizeLevel c.level)),
    .ofDirectives ((language read).directivesIn r), ?_, ?_, ?_, ?_⟩
  · rw [filter_of_environment henv, parseOr_of_ok hjoined, build_language]
  · rw [filter_of_no_environment rfl, configFilter, parseOr_of_ok hreadLevel, build_language]
  · rw [parse, hreadEnv, build_language]
    rfl
  · intro target level
    refine ⟨?_, ?_⟩
    · intro hout
      rw [allows, governing?_append, if_pos hout, allows]
    · intro hout
      rw [allows, governing?_append, if_neg hout, allows]

/-- Events at warning level or above, and for `jtc_check` also the less severe ones. -/
def warnings : LoggingConfig := { level := " warn,jtc_check=debug" }

/-- The environment says twice what it wants of `jtc`, and the level says more about `jtc_check`. So
the environment decides about `jtc` and `jtc_config`, and the level about `jtc_check` and others. -/
theorem environment_overrides_warnings_of_jtc :
    Outranks (plain.directivesIn "jtc=off,jtc=info") (plain.directivesIn "warn,jtc_check=debug")
      "jtc_config" ∧
    ¬ Outranks (plain.directivesIn "jtc=off,jtc=info") (plain.directivesIn "warn,jtc_check=debug")
      "jtc_check" ∧
    ∃ merged ofLevel ofEnvironment,
      warnings.filter plain (some "jtc=off,jtc=info ") = .ok merged ∧
      warnings.filter plain none = .ok ofLevel ∧
      plain.parse "jtc=off,jtc=info" = .ok ofEnvironment ∧
      merged.allows "jtc_config" .info = ofEnvironment.allows "jtc_config" .info ∧
      merged.allows "jtc_check" .debug = ofLevel.allows "jtc_check" .debug := by
  have hnormal : normalizeLevel warnings.level = "warn,jtc_check=debug" := by decide
  have hout : Outranks (plain.directivesIn "jtc=off,jtc=info")
      (plain.directivesIn "warn,jtc_check=debug") "jtc_config" := by decide
  have hkept : ¬ Outranks (plain.directivesIn "jtc=off,jtc=info")
      (plain.directivesIn "warn,jtc_check=debug") "jtc_check" := by decide
  have hlevel : plain.Valid (normalizeLevel warnings.level) := by
    rw [hnormal]
    decide
  have hr : plain.Valid "jtc=off,jtc=info" := by decide
  obtain ⟨merged, ofLevel, ofEnvironment, hmerged, hofLevel, hofEnvironment, hdecides⟩ :=
    environment_overrides_level_per_target Directive.ofPiece warnings (some "jtc=off,jtc=info ")
      "jtc=off,jtc=info" (by decide) hlevel hr
  rw [hnormal] at hdecides
  exact ⟨hout, hkept, merged, ofLevel, ofEnvironment, hmerged, hofLevel, hofEnvironment,
    (hdecides _ _).1 hout, (hdecides _ _).2 hkept⟩

end LoggingConfig

end JavaChecker
