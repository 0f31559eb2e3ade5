import SensorSystem.Base.Results

/-! A state that is kept in memory and in a file. An operation works on a copy of the state and
tells whether it changed it; a changed copy is written before it takes the place of the state. The
calls of the file system are taken to succeed. -/

namespace SensorSystem.Base

universe u v w

/-- How a state is kept in a file. -/
structure CheckpointFormat (ε : Type u) (σ : Type v) where
  encode : σ → Except ε (List UInt8)
  decode : List UInt8 → Except ε σ

structure Checkpoint (σ : Type v) where
  file : List UInt8
  state : σ

namespace Checkpoint

variable {ε : Type u} {σ : Type v} {κ : Type w}

def create (format : CheckpointFormat ε σ) (state : σ) : Except ε (Checkpoint σ) :=
  match format.encode state with
  | .error error => .error error
  | .ok file => .ok ⟨file, state⟩

def openFile (format : CheckpointFormat ε σ) (file : List UInt8) : Except ε (Checkpoint σ) :=
  match format.decode file with
  | .error error => .error error
  | .ok state => .ok ⟨file, state⟩

/-- A changed copy of the state is persisted and then taken over. -/
def update (format : CheckpointFormat ε σ) (operation : σ → Except ε (σ × Bool))
    (store : Checkpoint σ) : Checkpoint σ × Except ε Unit :=
  match operation store.state with
  | .error error => (store, .error error)
  | .ok (_, false) => (store, .ok ())
  | .ok (next, true) =>
    match format.encode next with
    | .error error => (store, .error error)
    | .ok file => (⟨file, next⟩, .ok ())

/-- One call after the other, whatever they answer. -/
def run (format : CheckpointFormat ε σ) (perform : κ → σ → Except ε (σ × Bool))
    (store : Checkpoint σ) (calls : List κ) : Checkpoint σ :=
  calls.foldl (fun store call => (store.update format (perform call)).1) store

/-- The file decodes to the state in memory. -/
def ReadsBack (format : CheckpointFormat ε σ) (store : Checkpoint σ) : Prop :=
  format.decode store.file = .ok store.state

variable {format : CheckpointFormat ε σ} {operation : σ → Except ε (σ × Bool)}
  {perform : κ → σ → Except ε (σ × Bool)} {store after : Checkpoint σ} {state next : σ}

theorem create_eq_ok : create format state = .ok store ↔
    format.encode state = .ok store.file ∧ store.state = state := by
  unfold create
  cases format.encode state with
  | error error => exact ⟨nofun, fun stored => nomatch stored.1⟩
  | ok file =>
    constructor
    · intro created
      cases created
      exact ⟨rfl, rfl⟩
    · rintro ⟨stored, rfl⟩
      rw [Except.ok.inj stored]

theorem openFile_eq_ok {file : List UInt8} : openFile format file = .ok store ↔
    store.file = file ∧ format.decode file = .ok store.state := by
  unfold openFile
  cases format.decode file with
  | error error => exact ⟨nofun, fun opened => nomatch opened.2⟩
  | ok state =>
    constructor
    · intro opened
      cases opened
      exact ⟨rfl, rfl⟩
    · rintro ⟨rfl, opened⟩
      rw [Except.ok.inj opened]

/-- What a call can do to the store. -/
theorem update_cases (format : CheckpointFormat ε σ) (operation : σ → Except ε (σ × Bool))
    (store : Checkpoint σ) : (store.update format operation).1 = store ∨
    ∃ next file, operation store.state = .ok (next, true) ∧ format.encode next = .ok file ∧
      (store.update format operation).1 = ⟨file, next⟩ := by
  unfold update
  split
  · exact .inl rfl
  · exact .inl rfl
  rename_i next changed
  split
  · exact .inl rfl
  rename_i file stored
  exact .inr ⟨next, file, changed, stored, rfl⟩

/-- A call that is refused changes neither the file nor the state. -/
theorem update_error {error : ε} (rejected : (store.update format operation).2 = .error error) :
    (store.update format operation).1 = store := by
  rw [update] at rejected ⊢
  generalize operation store.state = outcome at rejected ⊢
  match outcome with
  | .error _ => rfl
  | .ok (_, false) => rfl
  | .ok (next, true) =>
    dsimp only at rejected ⊢
    cases stored : format.encode next with
    | error _ => rfl
    | ok file =>
      rw [stored] at rejected
      cases rejected

theorem run_append (store : Checkpoint σ) (before after : List κ) :
    store.run format perform (before ++ after) =
      (store.run format perform before).run format perform after :=
  List.foldl_append

/-- The call was made before, and what it left behind is still there. -/
def Settled (operation : σ → Except ε (σ × Bool)) (state : σ) : Prop :=
  ∃ same, operation state = .ok (same, false)

theorem update_of_settled (settled : Settled operation store.state) :
    store.update format operation = (store, .ok ()) := by
  obtain ⟨same, unchanged⟩ := settled
  rw [update, unchanged]

theorem settled_of_update
    (settles : ∀ state next, operation state = .ok (next, true) → Settled operation next)
    (accepted : (store.update format operation).2 = .ok ()) :
    Settled operation (store.update format operation).1.state := by
  rw [update] at accepted ⊢
  match outcome : operation store.state with
  | .error _ =>
    rw [outcome] at accepted
    cases accepted
  | .ok (same, false) => exact ⟨same, outcome⟩
  | .ok (next, true) =>
    rw [outcome] at accepted
    dsimp only at accepted ⊢
    cases stored : format.encode next with
    | error _ =>
      rw [stored] at accepted
      cases accepted
    | ok file => exact settles _ _ outcome

theorem update_keeps {Inv : σ → Prop}
    (keeps : ∀ next, operation store.state = .ok (next, true) → Inv next)
    (holds : Inv store.state) : Inv (store.update format operation).1.state := by
  rcases update_cases format operation store with same | ⟨next, file, changed, -, taken⟩
  · rw [same]
    exact holds
  · rw [taken]
    exact keeps next changed

/-- What every changing call keeps of the state, a run keeps. -/
theorem run_keeps {Inv : σ → Prop} {calls : List κ}
    (keeps : ∀ call state next, perform call state = .ok (next, true) → Inv state → Inv next)
    (holds : Inv store.state) : Inv (store.run format perform calls).state := by
  induction calls generalizing store with
  | nil => exact holds
  | cons call rest ih =>
    exact ih (update_keeps (fun next changed => keeps call _ next changed holds) holds)

/-- A call that was accepted is passed over when it is made again. -/
theorem update_again {call : κ} {calls : List κ}
    (settles : ∀ state next, perform call state = .ok (next, true) → Settled (perform call) next)
    (lasts : ∀ other state next, perform other state = .ok (next, true) →
      Settled (perform call) state → Settled (perform call) next)
    (accepted : (store.update format (perform call)).2 = .ok ()) :
    let after := (store.update format (perform call)).1.run format perform calls
    after.update format (perform call) = (after, .ok ()) :=
  update_of_settled (run_keeps (lasts · · ·) (settled_of_update settles accepted))

/-- The file holds the state in memory. -/
def Stored (format : CheckpointFormat ε σ) (store : Checkpoint σ) : Prop :=
  format.encode store.state = .ok store.file

theorem Stored.update (stored : store.Stored format) :
    (store.update format operation).1.Stored format := by
  rcases update_cases format operation store with same | ⟨next, file, -, written, taken⟩
  · rw [same]
    exact stored
  · rw [taken]
    exact written

theorem Stored.run (stored : store.Stored format) (calls : List κ) :
    (store.run format perform calls).Stored format := by
  induction calls generalizing store with
  | nil => exact stored
  | cons call rest ih => exact ih stored.update

theorem sound_of_createNew [DecidableEq σ] {Sound : σ → Prop} {taken : ε}
    {existing : Option (List UInt8)}
    (reads : ∀ file state, format.decode file = .ok state →
      Sound state ∧ format.encode state = .ok file)
    (sound : Sound state) (created : (match existing with
      | some file => do
        let opened ← openFile format file
        if opened.state = state then .ok opened else .error taken
      | none => create format state) = .ok store) :
    store.Stored format ∧ Sound store.state := by
  cases existing with
  | some file =>
    obtain ⟨before, opened, same⟩ := bind_eq_ok.mp created
    obtain ⟨rfl, read⟩ := openFile_eq_ok.mp opened
    split at same
    · cases same
      exact (reads _ _ read).symm
    · exact nomatch same
  | none =>
    obtain ⟨written, rfl⟩ := create_eq_ok.mp created
    exact ⟨written, sound⟩

/-- Every accepted file is the encoding of the state it decodes to. -/
def Canonical (format : CheckpointFormat ε σ) : Prop :=
  ∀ file state, format.decode file = .ok state → format.encode state = .ok file

end Checkpoint
end SensorSystem.Base
