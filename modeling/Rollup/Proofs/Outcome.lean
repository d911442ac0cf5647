import Mathlib.Data.List.Forall2

/-!
# Computations that may fail

What is known of the steps of a computation that succeeds.
-/

namespace Rollup

variable {alpha beta error : Type}

@[simp] theorem ok_bind (a : alpha) (f : alpha -> Except error beta) :
    (Except.ok a >>= f) = f a :=
  rfl

@[simp] theorem error_bind (e : error) (f : alpha -> Except error beta) :
    (Except.error e >>= f) = .error e :=
  rfl

theorem bind_eq_ok_iff {x : Except error alpha} {f : alpha -> Except error beta} {b : beta} :
    (x >>= f) = .ok b <-> exists a, x = .ok a ∧ f a = .ok b := by
  cases x with
  | error e => simp
  | ok a => simp

theorem bind_eq_error_iff {x : Except error alpha} {f : alpha -> Except error beta} {e : error} :
    (x >>= f) = .error e <-> x = .error e ∨ exists a, x = .ok a ∧ f a = .error e := by
  cases x with
  | error e => simp
  | ok a => simp

theorem mapM_eq_ok_iff {f : alpha -> Except error beta} {xs : List alpha} {ys : List beta} :
    xs.mapM f = .ok ys <-> List.Forall₂ (fun x y => f x = .ok y) xs ys := by
  induction xs generalizing ys with
  | nil =>
      rw [List.mapM_nil]
      constructor
      · intro h
        cases h
        exact .nil
      · intro h
        cases h
        rfl
  | cons x xs ih =>
      rw [List.mapM_cons, bind_eq_ok_iff]
      constructor
      · rintro ⟨y, hy, hmore⟩
        rcases bind_eq_ok_iff.mp hmore with ⟨rest, hrest, heq⟩
        cases heq
        exact .cons hy (ih.mp hrest)
      · intro h
        cases h with
        | cons hy hrest => exact ⟨_, hy, bind_eq_ok_iff.mpr ⟨_, ih.mpr hrest, rfl⟩⟩

theorem mapM_map_eq_ok {gamma : Type} {f : beta -> Except error gamma} {g : alpha -> beta}
    {result : alpha -> gamma} {xs : List alpha}
    (h : forall x, x ∈ xs -> f (g x) = .ok (result x)) :
    (xs.map g).mapM f = .ok (xs.map result) := by
  rw [mapM_eq_ok_iff, List.forall₂_map_left_iff, List.forall₂_map_right_iff, List.forall₂_same]
  exact h

theorem exists_mapM_of_forall {f : alpha -> Except error beta} {rel : alpha -> beta -> Prop}
    {xs : List alpha} (h : forall x, x ∈ xs -> exists y, f x = .ok y ∧ rel x y) :
    exists ys, xs.mapM f = .ok ys ∧ List.Forall₂ rel xs ys := by
  induction xs with
  | nil => exact ⟨[], rfl, .nil⟩
  | cons x xs ih =>
      rcases h x List.mem_cons_self with ⟨y, hy, hrel⟩
      rcases ih (fun other hother => h other (List.mem_cons_of_mem x hother)) with ⟨ys, hys, hrest⟩
      exact ⟨y :: ys, by rw [List.mapM_cons, hy, hys]; rfl, .cons hrel hrest⟩

theorem exists_mapM_eq_ok {f : alpha -> Except error beta} {xs : List alpha}
    (h : forall x, x ∈ xs -> exists y, f x = .ok y) : exists ys, xs.mapM f = .ok ys := by
  have hall : forall x, x ∈ xs -> exists y, f x = .ok y ∧ True :=
    fun x hx => (h x hx).imp (fun _ hy => ⟨hy, trivial⟩)
  rcases exists_mapM_of_forall hall with ⟨ys, hys, _⟩
  exact ⟨ys, hys⟩

theorem sublist_of_filterM {f : alpha -> Except error Bool} {xs ys : List alpha}
    (h : xs.filterM f = .ok ys) : ys.Sublist xs := by
  have hloop : forall passed kept : List alpha, List.filterAuxM f xs passed = .ok kept ->
      exists taken : List alpha, taken.Sublist xs ∧ kept = taken.reverse ++ passed := by
    clear h
    induction xs with
    | nil =>
        intro passed kept h
        cases h
        exact ⟨[], List.Sublist.refl _, rfl⟩
    | cons x xs ih =>
        intro passed kept h
        rw [List.filterAuxM] at h
        rcases bind_eq_ok_iff.mp h with ⟨keep, _, hkept⟩
        rcases ih _ _ hkept with ⟨taken, htaken, rfl⟩
        cases keep with
        | false => exact ⟨taken, htaken.cons x, rfl⟩
        | true =>
            refine ⟨x :: taken, htaken.cons_cons x, ?_⟩
            rw [List.reverse_cons, List.append_assoc]
            rfl
  rw [List.filterM] at h
  rcases bind_eq_ok_iff.mp h with ⟨kept, hkept, heq⟩
  cases heq
  rcases hloop [] kept hkept with ⟨taken, htaken, rfl⟩
  rw [List.append_nil, List.reverse_reverse]
  exact htaken

theorem filterM_eq_ok {f : alpha -> Except error Bool} {p : alpha -> Bool} {xs : List alpha}
    (h : forall x, x ∈ xs -> f x = .ok (p x)) : xs.filterM f = .ok (xs.filter p) := by
  have hloop : forall passed : List alpha,
      List.filterAuxM f xs passed = .ok ((xs.filter p).reverse ++ passed) := by
    induction xs with
    | nil => exact fun _ => rfl
    | cons x xs ih =>
        intro passed
        rw [List.filterAuxM, h x List.mem_cons_self, ok_bind,
          ih (fun other hother => h other (List.mem_cons_of_mem x hother))]
        cases hx : p x with
        | false => rw [List.filter_cons_of_neg (by simp [hx])]; rfl
        | true => rw [List.filter_cons_of_pos hx, List.reverse_cons, List.append_assoc]; rfl
  rw [List.filterM, hloop, ok_bind, List.append_nil, List.reverse_reverse]
  rfl

theorem exists_left_of_mem {rel : alpha -> beta -> Prop} {xs : List alpha} {ys : List beta}
    (h : List.Forall₂ rel xs ys) {y : beta} (hy : y ∈ ys) : exists x, x ∈ xs ∧ rel x y := by
  induction h with
  | nil => cases hy
  | cons hx _ ih =>
      rcases List.mem_cons.mp hy with rfl | hy
      · exact ⟨_, List.mem_cons_self, hx⟩
      · rcases ih hy with ⟨x, hmem, hrel⟩
        exact ⟨x, List.mem_cons_of_mem _ hmem, hrel⟩

theorem exists_right_of_mem {rel : alpha -> beta -> Prop} {xs : List alpha} {ys : List beta}
    (h : List.Forall₂ rel xs ys) {x : alpha} (hx : x ∈ xs) : exists y, y ∈ ys ∧ rel x y := by
  rcases exists_left_of_mem (List.Forall₂.flip (R := flip rel) h) hx with ⟨y, hy, hrel⟩
  exact ⟨y, hy, hrel⟩

theorem exists_of_mem_mapM {f : alpha -> Except error beta} {xs : List alpha} {ys : List beta}
    (h : xs.mapM f = .ok ys) {y : beta} (hy : y ∈ ys) : exists x, x ∈ xs ∧ f x = .ok y :=
  exists_left_of_mem (mapM_eq_ok_iff.mp h) hy

theorem exists_result_of_mem_mapM {f : alpha -> Except error beta} {xs : List alpha}
    {ys : List beta} (h : xs.mapM f = .ok ys) {x : alpha} (hx : x ∈ xs) :
    exists y, y ∈ ys ∧ f x = .ok y :=
  exists_right_of_mem (mapM_eq_ok_iff.mp h) hx

/-!
# The step that fails
-/

theorem exists_of_mapM_error {f : alpha -> Except error beta} {xs : List alpha} {e : error}
    (h : xs.mapM f = .error e) : exists x, x ∈ xs ∧ f x = .error e := by
  induction xs with
  | nil => cases h
  | cons x xs ih =>
      rw [List.mapM_cons] at h
      rcases bind_eq_error_iff.mp h with hx | ⟨y, _, h⟩
      · exact ⟨x, List.mem_cons_self, hx⟩
      · rcases bind_eq_error_iff.mp h with hrest | ⟨ys, _, heq⟩
        · rcases ih hrest with ⟨other, hother, hfails⟩
          exact ⟨other, List.mem_cons_of_mem x hother, hfails⟩
        · cases heq

/-- Where the computations can fail in one way only, the list of them fails in that way. -/
theorem mapM_eq_error {f : alpha -> Except error beta} {xs : List alpha} {e : error}
    (honly : forall x, x ∈ xs -> forall other, f x = .error other -> other = e)
    (h : exists x, x ∈ xs ∧ f x = .error e) : xs.mapM f = .error e := by
  rcases h with ⟨x, hx, hfails⟩
  cases hall : xs.mapM f with
  | ok ys =>
      rcases exists_result_of_mem_mapM hall hx with ⟨y, _, hy⟩
      rw [hfails] at hy
      cases hy
  | error other =>
      rcases exists_of_mapM_error hall with ⟨first, hfirst, hother⟩
      rw [honly first hfirst other hother]

/-- The computation fails, or what it gives is as wanted. -/
def Ensures (wanted : alpha -> Prop) (x : Except error alpha) : Prop :=
  forall a, x = .ok a -> wanted a

namespace Ensures

variable {wanted : alpha -> Prop} {next : beta -> Prop}

theorem ok {a : alpha} (h : wanted a) : Ensures wanted (Except.ok a : Except error alpha) := by
  rintro _ ⟨⟩
  exact h

theorem failed (e : error) : Ensures wanted (Except.error e) := by
  rintro _ ⟨⟩

theorem unconditional (x : Except error alpha) : Ensures (fun _ => True) x :=
  fun _ _ => trivial

theorem bind {x : Except error alpha} {f : alpha -> Except error beta} (hx : Ensures wanted x)
    (hf : forall a, wanted a -> Ensures next (f a)) : Ensures next (x >>= f) := by
  intro b hb
  rcases bind_eq_ok_iff.mp hb with ⟨a, ha, hfa⟩
  exact hf a (hx a ha) b hfa

end Ensures

/-!
# Reasons to fail
-/

/-- If the computation fails, it is for none of the reasons given. -/
def Avoids (reason : error -> Prop) (x : Except error alpha) : Prop :=
  forall e, x = .error e -> ¬ reason e

namespace Avoids

variable {reason : error -> Prop}

theorem ok (a : alpha) : Avoids reason (Except.ok a) := by
  rintro _ ⟨⟩

theorem failed {e : error} (h : ¬ reason e) :
    Avoids reason (Except.error e : Except error alpha) := by
  rintro _ ⟨⟩
  exact h

theorem bind {x : Except error alpha} {f : alpha -> Except error beta} (hx : Avoids reason x)
    (hf : forall a, x = .ok a -> Avoids reason (f a)) : Avoids reason (x >>= f) := by
  cases x with
  | error e => exact failed (hx e rfl)
  | ok a => exact hf a rfl

theorem mapM {f : alpha -> Except error beta} {xs : List alpha}
    (h : forall x, x ∈ xs -> Avoids reason (f x)) : Avoids reason (xs.mapM f) := by
  intro e hfails
  rcases exists_of_mapM_error hfails with ⟨x, hx, he⟩
  exact h x hx e he

end Avoids

end Rollup
