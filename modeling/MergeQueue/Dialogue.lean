/-! A dialogue asks questions of a surrounding world and goes on with the replies, until it ends
with a value. -/

namespace MergeQueue

inductive Dialogue (Ask : Type) (Reply : Ask → Type) (α : Type) : Type where
  | done (value : α)
  | ask (question : Ask) (next : Reply question → Dialogue Ask Reply α)

namespace Dialogue

variable {Ask : Type} {Reply : Ask → Type} {α β γ : Type}

def bind : Dialogue Ask Reply α → (α → Dialogue Ask Reply β) → Dialogue Ask Reply β
  | .done a, f => f a
  | .ask q next, f => .ask q (fun r => bind (next r) f)

instance : Monad (Dialogue Ask Reply) where
  pure := .done
  bind := Dialogue.bind

@[simp] theorem pure_eq (a : α) : (pure a : Dialogue Ask Reply α) = .done a := rfl

@[simp] theorem done_bind (a : α) (f : α → Dialogue Ask Reply β) : (.done a >>= f) = f a := rfl

@[simp] theorem ask_bind (q : Ask) (next : Reply q → Dialogue Ask Reply α)
    (f : α → Dialogue Ask Reply β) : (.ask q next >>= f) = .ask q (fun r => next r >>= f) := rfl

theorem bind_done (d : Dialogue Ask Reply α) : d.bind .done = d := by
  induction d with
  | done => rfl
  | ask q next ih => simp only [bind, ih]

theorem bind_assoc (d : Dialogue Ask Reply α) (f : α → Dialogue Ask Reply β)
    (g : β → Dialogue Ask Reply γ) : (d.bind f).bind g = d.bind (fun a => (f a).bind g) := by
  induction d with
  | done => rfl
  | ask q next ih => simp only [bind, ih]

instance : LawfulMonad (Dialogue Ask Reply) :=
  LawfulMonad.mk' (Dialogue Ask Reply) (fun d => bind_done d) (fun _ _ => rfl) bind_assoc

def question (q : Ask) : Dialogue Ask Reply (Reply q) := .ask q .done

def run {m : Type → Type} [Monad m] (answer : (q : Ask) → m (Reply q)) :
    Dialogue Ask Reply α → m α
  | .done a => pure a
  | .ask q next => do
    let r ← answer q
    run answer (next r)

end Dialogue

end MergeQueue
