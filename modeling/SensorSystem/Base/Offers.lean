import Mathlib.Tactic.Common

/-! A program of one party that offers items to another one and goes on with the answer. Between
two offers the other party may do anything, so the program is the tree of its continuations.
`Keeps` says what holds at the end of a program for every sequence of answers, while the accepted
items change a ledger. -/

namespace SensorSystem.Base

inductive Offers (ε α : Type) where
  | done (value : α)
  | offer (item : ε) (next : Bool → Offers ε α)

namespace Offers

variable {ε α β σ : Type}

protected def bind : Offers ε α → (α → Offers ε β) → Offers ε β
  | done value, next => next value
  | offer item resume, next => offer item fun answer => (resume answer).bind next

instance : Monad (Offers ε) where
  pure := done
  bind := Offers.bind

/-- Offer one item and return the answer. -/
def try_ (item : ε) : Offers ε Bool :=
  offer item done

/-- Run a program against a party that answers each offer from its state. -/
def run (answer : σ → ε → Bool × σ) : Offers ε α → σ → α × σ
  | done value, state => (value, state)
  | offer item next, state =>
    let (accepted, state) := answer state item
    (next accepted).run answer state

/-- Every offer is allowed at its time, and the result meets the postcondition. -/
def Keeps (allowed : σ → ε → Prop) (add : σ → ε → σ) (post : α → σ → Prop) : Offers ε α → σ → Prop
  | done value, ledger => post value ledger
  | offer item next, ledger => allowed ledger item ∧
      (next true).Keeps allowed add post (add ledger item) ∧
      (next false).Keeps allowed add post ledger

/-- What a program offers and ends with, whatever it is answered. -/
def Through (allowed : ε → Prop) (post : α → Prop) : Offers ε α → Prop
  | done value => post value
  | offer item next => allowed item ∧ ∀ answer, (next answer).Through allowed post

section Through

variable {allowed : ε → Prop} {program : Offers ε α}

theorem through_bind {post : β → Prop} {next : α → Offers ε β}
    (first : program.Through allowed fun value => (next value).Through allowed post) :
    (program >>= next).Through allowed post := by
  induction program with
  | done value => exact first
  | offer item resume ih => exact ⟨first.1, fun answer => ih answer (first.2 answer)⟩

theorem through_try {post : Bool → Prop} {item : ε} (fine : allowed item)
    (answers : ∀ answer, post answer) : (try_ item).Through allowed post :=
  ⟨fine, answers⟩

variable {post : α → Prop}

theorem Through.mono {larger : ε → Prop} {weaker : α → Prop}
    (through : program.Through allowed post) (items : ∀ item, allowed item → larger item)
    (values : ∀ value, post value → weaker value) : program.Through larger weaker := by
  induction program with
  | done value => exact values value through
  | offer item resume ih =>
    exact ⟨items item through.1, fun answer => ih answer (through.2 answer)⟩

/-- An invariant on allowed offers is kept in a run. -/
theorem Through.run {answer : σ → ε → Bool × σ} {keeps : σ → Prop}
    (steps : ∀ state item, allowed item → keeps state → keeps (answer state item).2)
    (through : program.Through allowed post) {state : σ} (before : keeps state) :
    post (program.run answer state).1 ∧ keeps (program.run answer state).2 := by
  induction program generalizing state with
  | done value => exact ⟨through, before⟩
  | offer item resume ih => exact ih _ (through.2 _) (steps state item through.1 before)

end Through

/-- What a program ends with, whatever it offers and is answered. -/
def Always (post : α → Prop) : Offers ε α → Prop :=
  Through (fun _ => True) post

variable {program : Offers ε α}

theorem always_bind {post : β → Prop} {next : α → Offers ε β}
    (first : program.Always fun value => (next value).Always post) :
    (program >>= next).Always post :=
  through_bind first

theorem always_try {post : Bool → Prop} {item : ε} (answers : ∀ answer, post answer) :
    (try_ item).Always post :=
  through_try trivial answers

variable {post : α → Prop}

theorem Always.mono {weaker : α → Prop} (always : program.Always post)
    (imp : ∀ value, post value → weaker value) : program.Always weaker :=
  Through.mono always (fun _ _ => trivial) imp

theorem Always.run (answer : σ → ε → Bool × σ) (always : program.Always post) (state : σ) :
    post (program.run answer state).1 :=
  by
  have steps (state : σ) (item : ε) (_ : True) (_ : True) : True := trivial
  have kept : post (program.run answer state).1 ∧
      (fun _ : σ => True) (program.run answer state).2 :=
    Through.run steps always trivial
  exact kept.1

section Rules

variable {allowed : σ → ε → Prop} {add : σ → ε → σ} {ledger : σ}

theorem keeps_bind {post : β → σ → Prop} {next : α → Offers ε β}
    (first : Keeps allowed add (fun value ledger => (next value).Keeps allowed add post ledger)
      program ledger) : Keeps allowed add post (program >>= next) ledger := by
  induction program generalizing ledger with
  | done value => exact first
  | offer item resume ih =>
    obtain ⟨fine, accepted, refused⟩ := first
    exact ⟨fine, ih true accepted, ih false refused⟩

theorem Keeps.mono {post weaker : α → σ → Prop} (keeps : program.Keeps allowed add post ledger)
    (imp : ∀ value ledger, post value ledger → weaker value ledger) :
    program.Keeps allowed add weaker ledger := by
  induction program generalizing ledger with
  | done value => exact imp value ledger keeps
  | offer item resume ih =>
    obtain ⟨fine, accepted, refused⟩ := keeps
    exact ⟨fine, ih true accepted, ih false refused⟩

theorem keeps_try {post : Bool → σ → Prop} {item : ε} (fine : allowed ledger item)
    (accepted : post true (add ledger item)) (refused : post false ledger) :
    (try_ item).Keeps allowed add post ledger :=
  ⟨fine, accepted, refused⟩

end Rules
end Offers
end SensorSystem.Base
