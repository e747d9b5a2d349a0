import BodyLength.Report.Work
import Mathlib.Data.List.Forall2

/-!
# Outcomes of steps

Readers and checks are chains of steps of which each may fail. What is known of a chain that has come through, or of
one that has failed, is known of its steps. The statements here take a chain apart, so that no proof about a reader
has to unfold the way its steps are put together. A piece of work that makes remarks is such a chain as well, and what
counts for `Work.Completes` is only whether it has a result.
-/

namespace BodyLength

variable {ε α β : Type}

/-- A chain comes through exactly if both its steps do. -/
theorem bind_eq_ok_iff {x : Except ε α} {f : α → Except ε β} {b : β} :
    x >>= f = .ok b ↔ ∃ a, x = .ok a ∧ f a = .ok b := by
  cases x with
  | error e => simp [bind, Except.bind]
  | ok a => simp [bind, Except.bind]

/-- A chain fails exactly if its first step does, or its second one behind it. -/
theorem bind_eq_error_iff {x : Except ε α} {f : α → Except ε β} {e : ε} :
    x >>= f = .error e ↔ x = .error e ∨ ∃ a, x = .ok a ∧ f a = .error e := by
  cases x with
  | error e' => simp [bind, Except.bind]
  | ok a => simp [bind, Except.bind]

/-- What is made of a result is a result exactly if there was one. -/
theorem map_eq_ok_iff {x : Except ε α} {f : α → β} {b : β} :
    x.map f = .ok b ↔ ∃ a, x = .ok a ∧ f a = b := by
  cases x with
  | error e => simp [Except.map]
  | ok a => simp [Except.map]

/-- What is done to a result in two steps is done in one. -/
theorem map_map_eq {γ : Type} (x : Except ε α) (f : α → β) (g : β → γ) : (x.map f).map g = x.map (g ∘ f) := by
  cases x <;> rfl

/-- Putting an error in other words changes no result. -/
theorem mapError_eq_ok_iff {ε' : Type} {x : Except ε α} {f : ε → ε'} {a : α} :
    x.mapError f = .ok a ↔ x = .ok a := by
  cases x with
  | error e => simp [Except.mapError]
  | ok a' => simp [Except.mapError]

@[simp] theorem ok_bind (a : α) (f : α → Except ε β) : (Except.ok a >>= f) = f a := rfl

@[simp] theorem error_bind (e : ε) (f : α → Except ε β) : (Except.error e >>= f) = .error e := rfl

/-- Whether there is a result can be computed, so that closed cases are decided by evaluation. -/
theorem exists_eq_ok_iff_isOk {x : Except ε α} : (∃ a, x = .ok a) ↔ x.isOk = true := by
  cases x with
  | error e => simp [Except.isOk, Except.toBool]
  | ok a => simp [Except.isOk, Except.toBool]

/-- The result is all that is left if the error is forgotten. -/
theorem toOption_eq_some_iff {x : Except ε α} {a : α} : x.toOption = some a ↔ x = .ok a := by
  cases x with
  | error e => simp [Except.toOption]
  | ok a' => simp [Except.toOption]

/-- A step for each item of a list comes through exactly if it does so for every item. -/
theorem mapM_eq_ok_iff {f : α → Except ε β} {items : List α} {results : List β} :
    items.mapM f = .ok results ↔ List.Forall₂ (fun item result => f item = .ok result) items results := by
  induction items generalizing results with
  | nil =>
      rw [List.mapM_nil, List.forall₂_nil_left_iff]
      exact ⟨fun h => (Except.ok.inj h).symm, fun h => h ▸ rfl⟩
  | cons item rest ih =>
      rw [List.mapM_cons, bind_eq_ok_iff, List.forall₂_cons_left_iff]
      simp only [bind_eq_ok_iff, ih]
      constructor
      · rintro ⟨result, hresult, more, hmore, heq⟩
        exact ⟨result, more, hresult, hmore, (Except.ok.inj heq).symm⟩
      · rintro ⟨result, more, hresult, hmore, rfl⟩
        exact ⟨result, hresult, more, hmore, rfl⟩

/-- What a step for each item of a list gives comes from one of the items. -/
theorem exists_mem_of_mapM_eq_ok {f : α → Except ε β} {items : List α} {results : List β}
    (h : items.mapM f = .ok results) : ∀ result ∈ results, ∃ item ∈ items, f item = .ok result := by
  have hall := mapM_eq_ok_iff.mp h
  clear h
  induction hall with
  | nil => simp
  | cons hitem _ ih =>
      rw [List.forall_mem_cons]
      refine ⟨⟨_, List.mem_cons_self, hitem⟩, fun result hresult => ?_⟩
      obtain ⟨item, hmem, heq⟩ := ih result hresult
      exact ⟨item, List.mem_cons_of_mem _ hmem, heq⟩

/-- A step for each item of a list gives something for every item. -/
theorem exists_result_of_mapM_eq_ok {f : α → Except ε β} {items : List α} {results : List β}
    (h : items.mapM f = .ok results) : ∀ item ∈ items, ∃ result, f item = .ok result := by
  have hall := mapM_eq_ok_iff.mp h
  clear h
  induction hall with
  | nil => simp
  | cons hitem _ ih =>
      rw [List.forall_mem_cons]
      exact ⟨⟨_, hitem⟩, ih⟩

/-- A step for each item of a list comes through if it does so for every item. -/
theorem exists_mapM_eq_ok {f : α → Except ε β} {items : List α} (h : ∀ item ∈ items, ∃ result, f item = .ok result) :
    ∃ results, items.mapM f = .ok results := by
  induction items with
  | nil => exact ⟨[], rfl⟩
  | cons item rest ih =>
      rw [List.forall_mem_cons] at h
      obtain ⟨result, hresult⟩ := h.1
      obtain ⟨results, hresults⟩ := ih h.2
      exact ⟨result :: results, mapM_eq_ok_iff.mpr (.cons hresult (mapM_eq_ok_iff.mp hresults))⟩

/-- Steps for the items of a list fail only if one of them does. -/
theorem exists_mem_of_mapM_eq_error {f : α → Except ε β} {items : List α} {e : ε}
    (h : items.mapM f = .error e) : ∃ item ∈ items, f item = .error e := by
  induction items with
  | nil => cases h
  | cons item rest ih =>
      rw [List.mapM_cons, bind_eq_error_iff] at h
      rcases h with hitem | ⟨result, -, h⟩
      · exact ⟨item, List.mem_cons_self, hitem⟩
      · rcases bind_eq_error_iff.mp h with hrest | ⟨results, -, hok⟩
        · obtain ⟨item', hmem, heq⟩ := ih hrest
          exact ⟨item', List.mem_cons_of_mem _ hmem, heq⟩
        · cases hok

/-! ## Work

A piece of work has remarks besides its outcome. Whether it comes to a result is a matter of the outcome alone, and one
piece behind another comes to a result exactly if the first one does and the second one does with what the first one
gives. -/

namespace Work

/-- Does a piece of work have a result? -/
def Completes (w : Work α) : Prop :=
  ∃ a, w.outcome = .ok a

instance (w : Work α) : Decidable w.Completes :=
  decidable_of_iff _ exists_eq_ok_iff_isOk.symm

@[simp] theorem done_outcome (a : α) : (done a).outcome = .ok a := rfl

@[simp] theorem remark_outcome (notices : List Notice) : (remark notices).outcome = .ok () := rfl

@[simp] theorem remark_andThen_outcome (notices : List Notice) (next : Unit → Work β) :
    ((remark notices).andThen next).outcome = (next ()).outcome := rfl

/-- Work that is done has come to its end. -/
theorem completes_done (a : α) : (done a).Completes :=
  ⟨a, rfl⟩

/-- Work goes through if its first piece does, and what follows from its result. -/
theorem completes_andThen_iff {w : Work α} {next : α → Work β} :
    (w.andThen next).Completes ↔ ∃ a, w.outcome = .ok a ∧ (next a).Completes := by
  unfold Completes
  rw [andThen_outcome]
  cases w.outcome with
  | error why => simp [Except.bind]
  | ok a => simp [Except.bind]

/-- What always goes through does not keep the work before it from doing so. -/
theorem completes_andThen_iff_of_forall {w : Work α} {next : α → Work β} (h : ∀ a, (next a).Completes) :
    (w.andThen next).Completes ↔ w.Completes := by
  rw [completes_andThen_iff]
  exact ⟨fun ⟨a, ha, _⟩ => ⟨a, ha⟩, fun ⟨a, ha⟩ => ⟨a, ha, h a⟩⟩

end Work

end BodyLength
