-- SUMMARY: Computations that record what they do.

/-!
# Logged computations

A logged computation is a value with the list of events recorded on the way to
it, in order.
-/

namespace Sandbox

structure Logged (ι α : Type) where
  value : α
  log : List ι

namespace Logged

variable {ι α β : Type}

/-- Records one event. -/
def record (event : ι) : Logged ι Unit := ⟨(), [event]⟩

instance : Monad (Logged ι) where
  pure a := ⟨a, []⟩
  bind x f := ⟨(f x.value).value, x.log ++ (f x.value).log⟩

@[simp] theorem value_pure (a : α) : (pure a : Logged ι α).value = a := rfl
@[simp] theorem log_pure (a : α) : (pure a : Logged ι α).log = [] := rfl

@[simp] theorem value_bind (x : Logged ι α) (f : α → Logged ι β) :
    (x >>= f).value = (f x.value).value := rfl

@[simp] theorem log_bind (x : Logged ι α) (f : α → Logged ι β) :
    (x >>= f).log = x.log ++ (f x.value).log := rfl

@[simp] theorem value_record (event : ι) : (record event).value = () := rfl
@[simp] theorem log_record (event : ι) : (record event).log = [event] := rfl

instance : LawfulMonad (Logged ι) :=
  LawfulMonad.mk' (Logged ι)
    (fun x => by cases x; simp [Functor.map])
    (fun _ _ => rfl)
    (fun x f g => by
      show Logged.mk _ _ = Logged.mk _ _
      simp [List.append_assoc])

end Logged
end Sandbox
