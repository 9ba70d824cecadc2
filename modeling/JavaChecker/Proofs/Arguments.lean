import JavaChecker.Check.Rule
import JavaChecker.Proofs.Subtyping
import Mathlib.Data.Nat.Find

/-!
# JavaChecker.Proofs.Arguments

Arguments against parameters. Method calls and constructor calls compare them with different code:
the one asks whether all of them fit, the other looks for the leftmost that does not. Both come
down to `Misfit`, which speaks of one position: the argument there has a static type, and it is not
a subtype of the parameter.
-/

namespace JavaChecker

namespace ClassTable

variable {t : ClassTable}

/-- The argument at a position has a type that is not a subtype of the parameter there. -/
def Misfit (t : ClassTable) (args : List (Option Ty)) (params : List Ty) (i : Nat)
    (arg param : Ty) : Prop :=
  args[i]? = some (some arg) ∧ params[i]? = some param ∧ ¬ t.SubtypeOf arg param

/-- There are as many arguments as parameters, and at every position the argument has no static
type, or one that is a subtype of the parameter. -/
def Fits (t : ClassTable) (args : List (Option Ty)) (params : List Ty) : Prop :=
  params.length = args.length ∧
    ∀ (i : Nat) (arg param : Ty),
      args[i]? = some (some arg) → params[i]? = some param → t.SubtypeOf arg param

theorem fits_iff {args : List (Option Ty)} {params : List Ty} :
    t.Fits args params ↔
      params.length = args.length ∧ ∀ i arg param, ¬ t.Misfit args params i arg param := by
  simp only [Fits, Misfit, not_and, not_not]

theorem exists_leftmost_misfit {args : List (Option Ty)} {params : List Ty}
    (h : ∃ i arg param, t.Misfit args params i arg param) :
    ∃ i arg param, t.Misfit args params i arg param ∧
      ∀ j < i, ∀ a q, ¬ t.Misfit args params j a q := by
  classical
  obtain ⟨arg, param, hmis⟩ := Nat.find_spec h
  exact ⟨Nat.find h, arg, param, hmis, fun j hj a q hj' => Nat.find_min h hj ⟨a, q, hj'⟩⟩

/-! ### The search for the leftmost misfit -/

theorem firstMisfit?_cons_of_fits {arg : Option Ty} {param : Ty} {args : List (Option Ty)}
    {params : List Ty} (h : ∀ ty, arg = some ty → t.SubtypeOf ty param) :
    t.firstMisfit? (arg :: args) (param :: params) = t.firstMisfit? args params := by
  cases arg with
  | none => rw [firstMisfit?]
  | some ty => rw [firstMisfit?, if_pos (isSubtype_iff.mpr (h ty rfl))]

theorem firstMisfit?_cons_of_misfit {ty param : Ty} {args : List (Option Ty)} {params : List Ty}
    (h : ¬ t.SubtypeOf ty param) :
    t.firstMisfit? (some ty :: args) (param :: params) = some (ty, param) := by
  rw [firstMisfit?, if_neg fun hsub => h (isSubtype_iff.mp hsub)]

theorem misfit_cons_succ {arg : Option Ty} {param : Ty} {args : List (Option Ty)}
    {params : List Ty} {i : Nat} {a q : Ty} :
    t.Misfit (arg :: args) (param :: params) (i + 1) a q ↔ t.Misfit args params i a q := by
  simp only [Misfit, List.getElem?_cons_succ]

theorem misfit_cons_zero {arg : Option Ty} {param : Ty} {args : List (Option Ty)}
    {params : List Ty} {a q : Ty} :
    t.Misfit (arg :: args) (param :: params) 0 a q ↔
      arg = some a ∧ param = q ∧ ¬ t.SubtypeOf a q := by
  simp only [Misfit, List.getElem?_cons_zero, Option.some.injEq]

/-- The search gives the misfit before which there is none. -/
theorem firstMisfit?_eq_some_iff {args : List (Option Ty)} {params : List Ty} {arg param : Ty} :
    t.firstMisfit? args params = some (arg, param) ↔
      ∃ i, t.Misfit args params i arg param ∧ ∀ j < i, ∀ a q, ¬ t.Misfit args params j a q := by
  induction args generalizing params with
  | nil => simp [firstMisfit?, Misfit]
  | cons head args ih =>
      cases params with
      | nil => simp [firstMisfit?, Misfit]
      | cons param' params =>
          by_cases hfit : ∀ ty, head = some ty → t.SubtypeOf ty param'
          · -- The head fits, so positions of misfits are one more than in the tails.
            have hzero : ∀ a q, ¬ t.Misfit (head :: args) (param' :: params) 0 a q := by
              rintro a q hmis
              obtain ⟨rfl, rfl, hsub⟩ := misfit_cons_zero.mp hmis
              exact hsub (hfit a rfl)
            rw [firstMisfit?_cons_of_fits hfit, ih]
            refine ⟨?_, ?_⟩
            · rintro ⟨i, hmis, hleft⟩
              refine ⟨i + 1, misfit_cons_succ.mpr hmis, ?_⟩
              intro j hj
              cases j with
              | zero => exact hzero
              | succ j =>
                  intro a q
                  rw [misfit_cons_succ]
                  exact hleft j (by omega) a q
            · rintro ⟨i, hmis, hleft⟩
              cases i with
              | zero => exact absurd hmis (hzero _ _)
              | succ i =>
                  refine ⟨i, misfit_cons_succ.mp hmis, fun j hj a q hj' => ?_⟩
                  exact hleft (j + 1) (by omega) a q (misfit_cons_succ.mpr hj')
          · -- The head is the leftmost misfit itself.
            obtain ⟨ty, rfl, hsub⟩ : ∃ ty, head = some ty ∧ ¬ t.SubtypeOf ty param' := by
              simpa using hfit
            have hzero : t.Misfit (some ty :: args) (param' :: params) 0 ty param' :=
              misfit_cons_zero.mpr ⟨rfl, rfl, hsub⟩
            rw [firstMisfit?_cons_of_misfit hsub]
            refine ⟨?_, ?_⟩
            · intro h
              cases h
              exact ⟨0, hzero, fun j hj => absurd hj (Nat.not_lt_zero j)⟩
            · rintro ⟨i, hmis, hleft⟩
              cases i with
              | zero =>
                  obtain ⟨harg, rfl, -⟩ := misfit_cons_zero.mp hmis
                  cases harg
                  rfl
              | succ i => exact absurd hzero (hleft 0 (Nat.succ_pos i) ty param')

/-- The search comes back empty exactly when there is no misfit. -/
theorem firstMisfit?_eq_none_iff {args : List (Option Ty)} {params : List Ty} :
    t.firstMisfit? args params = none ↔ ∀ i arg param, ¬ t.Misfit args params i arg param := by
  refine ⟨?_, ?_⟩
  · intro h i arg param hmis
    obtain ⟨i, a, q, hleftmost⟩ := exists_leftmost_misfit ⟨i, arg, param, hmis⟩
    have hsome : t.firstMisfit? args params = some (a, q) :=
      firstMisfit?_eq_some_iff.mpr ⟨i, hleftmost⟩
    rw [h] at hsome
    cases hsome
  · intro h
    cases hfound : t.firstMisfit? args params with
    | none => rfl
    | some pair =>
        obtain ⟨i, hmis, -⟩ := firstMisfit?_eq_some_iff.mp hfound
        exact absurd hmis (h i pair.1 pair.2)

/-! ### The test of all arguments at once -/

/-- Testing all arguments at once is asking whether the search comes back empty. -/
theorem accepts_eq_isNone (t : ClassTable) (args : List (Option Ty)) (params : List Ty) :
    t.accepts args params = (t.firstMisfit? args params).isNone := by
  induction args generalizing params with
  | nil => rfl
  | cons arg args ih =>
      cases params with
      | nil => rfl
      | cons param params =>
          have hstep : t.accepts (arg :: args) (param :: params) =
              (arg.all (t.isSubtype · param) && t.accepts args params) := rfl
          rw [hstep, ih]
          cases arg with
          | none => rfl
          | some ty =>
              rw [firstMisfit?, Option.all_some]
              cases t.isSubtype ty param <;> rfl

theorem accepts_iff {args : List (Option Ty)} {params : List Ty} :
    t.accepts args params = true ↔ ∀ i arg param, ¬ t.Misfit args params i arg param := by
  rw [accepts_eq_isNone, Option.isNone_iff_eq_none, firstMisfit?_eq_none_iff]

end ClassTable

end JavaChecker
