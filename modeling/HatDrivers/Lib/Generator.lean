import Mathlib.Data.List.Basic

namespace HatDrivers.Lib

/-!
# Generators

A generator as the whole of its run: what it yields, and how it ends, by returning or by raising an
exception.  What was yielded before an exception stays yielded.
-/

/-- What a generator yields, and its result. -/
structure Generator (ε α β : Type) where
  yielded : List α
  result : Except ε β

namespace Generator

variable {ε α β γ : Type}

instance : Monad (Generator ε α) where
  pure b := ⟨[], .ok b⟩
  bind g f :=
    match g.result with
    | .ok b => ⟨g.yielded ++ (f b).yielded, (f b).result⟩
    | .error e => ⟨g.yielded, .error e⟩

/-- `yield a`. -/
def yield (a : α) : Generator ε α Unit := ⟨[a], .ok ()⟩

/-- A call of a function that yields nothing. -/
def ofExcept (x : Except ε β) : Generator ε α β := ⟨[], x⟩

/-- `raise e`. -/
def raise (e : ε) : Generator ε α β := ofExcept (.error e)

@[simp] theorem yielded_pure (b : β) : (pure b : Generator ε α β).yielded = [] := rfl

@[simp] theorem result_pure (b : β) : (pure b : Generator ε α β).result = .ok b := rfl

@[simp] theorem yielded_raise (e : ε) : (raise e : Generator ε α β).yielded = [] := rfl

@[simp] theorem result_raise (e : ε) : (raise e : Generator ε α β).result = .error e := rfl

@[simp] theorem yield_bind (a : α) (f : Unit → Generator ε α γ) :
    yield a >>= f = ⟨a :: (f ()).yielded, (f ()).result⟩ := rfl

@[simp] theorem pure_bind (b : β) (f : β → Generator ε α γ) : pure b >>= f = f b := rfl

@[simp] theorem raise_bind (e : ε) (f : β → Generator ε α γ) : raise e >>= f = raise e := rfl

theorem ofExcept_bind (x : Except ε β) (f : β → Generator ε α γ) :
    ofExcept x >>= f = match x with
      | .ok b => f b
      | .error e => raise e := by
  cases x with
  | ok b => rfl
  | error e => rfl

theorem yielded_bind_of_ok {g : Generator ε α β} {b : β} (h : g.result = .ok b)
    (f : β → Generator ε α γ) : (g >>= f).yielded = g.yielded ++ (f b).yielded := by
  obtain ⟨yielded, result⟩ := g
  obtain rfl : result = .ok b := h
  rfl

theorem yielded_bind_of_error {g : Generator ε α β} {e : ε} (h : g.result = .error e)
    (f : β → Generator ε α γ) : (g >>= f).yielded = g.yielded := by
  obtain ⟨yielded, result⟩ := g
  obtain rfl : result = .error e := h
  rfl

end Generator

end HatDrivers.Lib
