import Mathlib.Data.List.Forall2
import TableProperties.Proofs.Except

/-!
# Lists of results

An operation that can fail is applied to the members of a list, one after the other, up to the first
member for which it fails.

## Main statements

* `mapM_eq_ok_iff`: no member fails.
* `mapM_eq_error_iff`: the first failure decides.
* `exists_mapM_eq_error_iff`: some member fails.
-/

namespace Except

variable {ε α β : Type} {f : α → Except ε β} {as : List α}

theorem mapM_cons_eq (f : α → Except ε β) (a : α) (as : List α) :
    (a :: as).mapM f = (f a).bind fun b ↦ (as.mapM f).map (b :: ·) := by
  rw [List.mapM_cons]
  cases f a with
  | error e => rfl
  | ok b => cases as.mapM f <;> rfl

theorem mapM_append_eq (f : α → Except ε β) (as as' : List α) :
    (as ++ as').mapM f = (as.mapM f).bind fun bs ↦ (as'.mapM f).map (bs ++ ·) := by
  rw [List.mapM_append]
  cases as.mapM f with
  | error e => rfl
  | ok bs => cases as'.mapM f <;> rfl

theorem mapM_eq_ok_iff {bs : List β} :
    as.mapM f = .ok bs ↔ List.Forall₂ (fun a b ↦ f a = .ok b) as bs := by
  induction as generalizing bs with
  | nil =>
    rw [List.forall₂_nil_left_iff, List.mapM_nil]
    exact ⟨fun h ↦ (Except.ok.inj h).symm, fun h ↦ h ▸ rfl⟩
  | cons a as ih =>
    rw [mapM_cons_eq, bind_eq_ok_iff, List.forall₂_cons_left_iff]
    constructor
    · rintro ⟨b, hb, hrest⟩
      obtain ⟨bs, hbs, rfl⟩ := map_eq_ok_iff.mp hrest
      exact ⟨b, bs, hb, ih.mp hbs, rfl⟩
    · rintro ⟨b, bs, hb, hbs, rfl⟩
      exact ⟨b, hb, map_eq_ok_iff.mpr ⟨bs, ih.mpr hbs, rfl⟩⟩

/-- The first failure decides, and what stands behind it does not matter. -/
theorem mapM_eq_error_iff {e : ε} :
    as.mapM f = .error e ↔
      ∃ front a back, as = front ++ a :: back ∧ (∀ b ∈ front, ∀ e', f b ≠ .error e') ∧
        f a = .error e := by
  induction as with
  | nil => simp [pure, Except.pure]
  | cons a as ih =>
    rw [mapM_cons_eq, bind_eq_error_iff]
    constructor
    · rintro (ha | ⟨b, hb, hrest⟩)
      · exact ⟨[], a, as, rfl, by simp, ha⟩
      · obtain ⟨front, c, back, rfl, hfront, hc⟩ := ih.mp (map_eq_error_iff.mp hrest)
        refine ⟨a :: front, c, back, rfl, fun d hd e' ↦ ?_, hc⟩
        rcases List.mem_cons.mp hd with rfl | hd
        · simp [hb]
        · exact hfront d hd e'
    · rintro ⟨front, c, back, heq, hfront, hc⟩
      cases front with
      | nil =>
        obtain ⟨rfl, rfl⟩ := List.cons.inj heq
        exact .inl hc
      | cons d front =>
        obtain ⟨rfl, rfl⟩ := List.cons.inj heq
        cases ha : f a with
        | error e' => exact absurd ha (hfront a List.mem_cons_self e')
        | ok b =>
          refine .inr ⟨b, rfl, map_eq_error_iff.mpr (ih.mpr ⟨front, c, back, rfl, ?_, hc⟩)⟩
          exact fun d hd ↦ hfront d (List.mem_cons_of_mem a hd)

theorem exists_mapM_eq_error_iff :
    (∃ e, as.mapM f = .error e) ↔ ∃ a ∈ as, ∃ e, f a = .error e := by
  induction as with
  | nil => simp [pure, Except.pure]
  | cons a as ih =>
    simp only [List.mem_cons, exists_eq_or_imp, ← ih, mapM_cons_eq, bind_eq_error_iff,
      map_eq_error_iff]
    cases f a with
    | error e => simp
    | ok b => simp

end Except
