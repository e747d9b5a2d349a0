import BodyLength.Report.Abort
import BodyLength.Report.Notice

/-!
# Work and its notices

A piece of work makes remarks on the way and then has an outcome: its result, or what ended it. `Work` keeps
both. Two pieces done one after the other make the remarks of the first and then those of the second, and
what ends the first ends both, so that the remarks up to there are kept and none is made after.
-/

namespace BodyLength

/-- What a piece of work remarked, and what came of it. -/
structure Work (α : Type) where
  notices : List Notice
  outcome : Except Abort α

namespace Work

variable {α β : Type}

/-- A result without any work. -/
def done (a : α) : Work α :=
  ⟨[], .ok a⟩

/-- Work that ends here. -/
def abort (why : Abort) : Work α :=
  ⟨[], .error why⟩

/-- Some remarks. -/
def remark (notices : List Notice) : Work Unit :=
  ⟨notices, .ok ()⟩

/-- A piece of work and what follows from its result. -/
def andThen (w : Work α) (next : α → Work β) : Work β :=
  match w.outcome with
  | .error why => ⟨w.notices, .error why⟩
  | .ok a => ⟨w.notices ++ (next a).notices, (next a).outcome⟩

instance : Monad Work where
  pure := done
  bind := andThen

@[simp] theorem pure_eq_done (a : α) : (pure a : Work α) = done a := rfl

@[simp] theorem bind_eq_andThen (w : Work α) (next : α → Work β) : w >>= next = w.andThen next := rfl

@[simp] theorem done_andThen (a : α) (next : α → Work β) : (done a).andThen next = next a := by
  simp [done, andThen]

theorem andThen_outcome (w : Work α) (next : α → Work β) :
    (w.andThen next).outcome = w.outcome.bind fun a => (next a).outcome := by
  cases h : w.outcome <;> simp [andThen, h, Except.bind]

end Work

end BodyLength
