import Mathlib.Data.List.Basic
import Matcher.Foundation.Actors

/-!
# Transactions that lock one row

Calls run in transactions of their own.  A call reads the row under a lock that
it keeps until its transaction ends, so it waits while another call has the lock.
It changes what it read, and its commit stores the changed row.  Whoever holds the
lock has read the row as it still is, so whatever a change keeps of the row that
it was made from, every commit keeps of the stored row.
-/

namespace Matcher.Foundation.RowLock

/-- The row, who has it locked, and the calls that have returned success with the
rows that they stored. -/
structure Store (κ γ ρ : Type) where
  row : ρ
  holder : Option κ
  returned : List (γ × ρ)

inductive Phase (γ ρ δ : Type)
  | idle
  | begun (call : γ)
  | loaded (call : γ) (value : δ)
  | changed (call : γ) (copy : ρ)

inductive Label (κ γ ε : Type)
  | begin (actor : κ) (call : γ)
  | load (actor : κ)
  | change (actor : κ)
  | commit (actor : κ) (outcome : CommitOutcome ε)
  | rollback (actor : κ)

abbrev Calls (κ γ ρ δ : Type) := Actors κ (Store κ γ ρ) (Phase γ ρ δ)

variable {κ γ ρ δ ε : Type} {calls : Calls κ γ ρ δ} {actor : κ}

def Store.unlock (store : Store κ γ ρ) : Store κ γ ρ :=
  { store with holder := none }

def Store.commit (store : Store κ γ ρ) (call : γ) (copy : ρ) :
    CommitOutcome ε → Store κ γ ρ
  | .committed =>
    { row := copy
      holder := none
      returned := store.returned ++ [(call, copy)] }
  | .refused _ => store.unlock
  | .unacknowledged _ => { store.unlock with row := copy }

section Steps

variable (load : γ → ρ → Except ε δ) (change : γ → δ → Except ε ρ)

/-- A call that fails is rolled back, and one that waits does nothing. -/
def step [DecidableEq κ] (calls : Calls κ γ ρ δ) : Label κ γ ε → Calls κ γ ρ δ
  | .begin actor call =>
    match calls.phase actor with
    | .idle => calls.goto actor (.begun call)
    | _ => calls
  | .load actor =>
    match calls.phase actor with
    | .begun call =>
      match calls.store.holder with
      | some _ => calls
      | none =>
        match load call calls.store.row with
        | .error _ => calls.goto actor .idle
        | .ok value =>
          calls.put actor { calls.store with holder := some actor } (.loaded call value)
    | _ => calls
  | .change actor =>
    match calls.phase actor with
    | .loaded call value =>
      match change call value with
      | .error _ => calls.put actor calls.store.unlock .idle
      | .ok copy => calls.goto actor (.changed call copy)
    | _ => calls
  | .commit actor outcome =>
    match calls.phase actor with
    | .changed call copy => calls.put actor (calls.store.commit call copy outcome) .idle
    | _ => calls
  | .rollback actor =>
    match calls.phase actor with
    | .idle => calls
    | .begun _ => calls.goto actor .idle
    | .loaded _ _ => calls.put actor calls.store.unlock .idle
    | .changed _ _ => calls.put actor calls.store.unlock .idle

def run [DecidableEq κ] (row : ρ) (labels : List (Label κ γ ε)) : Calls κ γ ρ δ :=
  labels.foldl (step load change) (.initial ⟨row, none, []⟩ .idle)

/-- What a call has in hand comes from the row as it is. -/
def Holds (actor : κ) (store : Store κ γ ρ) : Phase γ ρ δ → Prop
  | .idle => True
  | .begun _ => True
  | .loaded call value => store.holder = some actor ∧ load call store.row = .ok value
  | .changed call copy =>
    store.holder = some actor ∧
      ∃ value, load call store.row = .ok value ∧ change call value = .ok copy

end Steps

variable {load : γ → ρ → Except ε δ} {change : γ → δ → Except ε ρ}

theorem Holds.of_not_holder {store store' : Store κ γ ρ} {phase : Phase γ ρ δ}
    (h : Holds load change actor store phase) (hholder : store.holder ≠ some actor) :
    Holds load change actor store' phase := by
  cases phase with
  | idle | begun => trivial
  | loaded | changed => exact absurd h.1 hholder

variable [DecidableEq κ]

theorem put_idle_holds (h : calls.Every (Holds load change))
    (hholder : calls.store.holder = some actor) (store : Store κ γ ρ) :
    (calls.put actor store .idle).Every (Holds load change) := by
  refine h.put trivial ?_
  intro other hother hholds
  apply hholds.of_not_holder
  rw [hholder]
  exact fun hsame => hother (Option.some.inj hsame).symm

theorem step_holds (h : calls.Every (Holds load change)) (label : Label κ γ ε) :
    (step load change calls label).Every (Holds load change) := by
  cases label with
  | begin =>
    simp only [step]
    split
    · exact h.goto trivial
    · exact h
  | load =>
    simp only [step]
    split
    next call hphase =>
      split
      next => exact h
      next hfree =>
        split
        next => exact h.goto trivial
        next value hload =>
          refine h.put ⟨rfl, hload⟩ ?_
          intro other hother hholds
          apply hholds.of_not_holder
          rw [hfree]
          exact Option.some_ne_none other |>.symm
    next => exact h
  | change =>
    simp only [step]
    split
    next call value hphase =>
      have hown := h.of_phase hphase
      split
      next => exact put_idle_holds h hown.1 _
      next copy hchange => exact h.goto ⟨hown.1, value, hown.2, hchange⟩
    next => exact h
  | commit =>
    simp only [step]
    split
    next call copy hphase => exact put_idle_holds h (h.of_phase hphase).1 _
    next => exact h
  | rollback =>
    simp only [step]
    split
    next => exact h
    next => exact h.goto trivial
    next call value hphase => exact put_idle_holds h (h.of_phase hphase).1 _
    next call copy hphase => exact put_idle_holds h (h.of_phase hphase).1 _

/-- What a step does to the row: nothing, or a call stores what it has made of the
row as it was. -/
inductive Writes (load : γ → ρ → Except ε δ) (change : γ → δ → Except ε ρ)
    (before after : Store κ γ ρ) : Prop
  | nothing (row : after.row = before.row) (returned : after.returned = before.returned)
  | stored (call : γ) (value : δ) (copy : ρ) (loads : load call before.row = .ok value)
      (changes : change call value = .ok copy) (row : after.row = copy)
      (returned : after.returned = before.returned ∨
        after.returned = before.returned ++ [(call, copy)])

theorem step_writes (h : calls.Every (Holds load change)) (label : Label κ γ ε) :
    Writes load change calls.store (step load change calls label).store := by
  cases label with
  | begin =>
    simp only [step]
    split <;> exact .nothing rfl rfl
  | load =>
    simp only [step]
    split
    next =>
      split
      next => exact .nothing rfl rfl
      next =>
        split <;> exact .nothing rfl rfl
    next => exact .nothing rfl rfl
  | change =>
    simp only [step]
    split
    next =>
      split <;> exact .nothing rfl rfl
    next => exact .nothing rfl rfl
  | commit _ outcome =>
    simp only [step]
    split
    next call copy hphase =>
      obtain ⟨-, value, hload, hchange⟩ := h.of_phase hphase
      cases outcome with
      | committed => exact .stored call value copy hload hchange rfl (Or.inr rfl)
      | refused => exact .nothing rfl rfl
      | unacknowledged => exact .stored call value copy hload hchange rfl (Or.inl rfl)
    next => exact .nothing rfl rfl
  | rollback =>
    simp only [step]
    split <;> exact .nothing rfl rfl

/-! ## What changes keep -/

/-- The change of a call keeps something of the row that it was made from. -/
structure Keeps (load : γ → ρ → Except ε δ) (change : γ → δ → Except ε ρ) (kept : ρ → ρ → Prop) :
    Prop where
  refl : ∀ row, kept row row
  trans : ∀ {first second third}, kept first second → kept second third → kept first third
  changes : ∀ {call row value copy}, load call row = .ok value →
    change call value = .ok copy → kept row copy

/-- The row that a call has returned with was made by it, and is kept since. -/
def ReturnedKept (load : γ → ρ → Except ε δ) (change : γ → δ → Except ε ρ)
    (kept : ρ → ρ → Prop) (store : Store κ γ ρ) : Prop :=
  ∀ entry ∈ store.returned,
    (∃ row value, load entry.1 row = .ok value ∧
      change entry.1 value = .ok entry.2) ∧ kept entry.2 store.row

section Kept

variable {kept : ρ → ρ → Prop} {before after : Store κ γ ρ}

omit [DecidableEq κ] in
theorem Writes.row_kept (h : Writes load change before after) (hkeeps : Keeps load change kept) :
    kept before.row after.row := by
  cases h with
  | nothing row =>
    rw [row]
    exact hkeeps.refl before.row
  | stored _ _ _ loads changes row =>
    rw [row]
    exact hkeeps.changes loads changes

omit [DecidableEq κ] in
theorem Writes.returnedKept (h : Writes load change before after) (hkeeps : Keeps load change kept)
    (hreturned : ReturnedKept load change kept before) : ReturnedKept load change kept after := by
  have hold : ∀ entry ∈ before.returned,
      (∃ row value, load entry.1 row = .ok value ∧
        change entry.1 value = .ok entry.2) ∧ kept entry.2 after.row :=
    fun entry hentry => ⟨(hreturned entry hentry).1,
      hkeeps.trans (hreturned entry hentry).2 (h.row_kept hkeeps)⟩
  intro entry hentry
  cases h with
  | nothing _ returned =>
    rw [returned] at hentry
    exact hold entry hentry
  | stored _ value copy loads changes row returned =>
    rcases returned with returned | returned
    · rw [returned] at hentry
      exact hold entry hentry
    · rw [returned] at hentry
      rcases List.mem_append.mp hentry with hentry | hentry
      · exact hold entry hentry
      · rw [List.mem_singleton.mp hentry, row]
        exact ⟨⟨before.row, value, loads, changes⟩, hkeeps.refl copy⟩

theorem run_holds (row : ρ) (labels : List (Label κ γ ε)) :
    (run load change row labels).Every (Holds load change) :=
  List.foldlRecOn labels (step load change) (fun _ => trivial) fun _ h label _ => step_holds h label

/-- The run lemma for the row: what is stored at some point is kept by all that
follows. -/
theorem run_kept (hkeeps : Keeps load change kept) (row : ρ) (reached more : List (Label κ γ ε)) :
    kept (run load change row reached).store.row
      (run load change row (reached ++ more)).store.row := by
  have hrun : run load change row (reached ++ more) =
      more.foldl (step load change) (run load change row reached) :=
    List.foldl_append
  rw [hrun]
  refine (List.foldlRecOn more (step load change)
    (motive := fun calls => calls.Every (Holds load change) ∧
      kept (run load change row reached).store.row calls.store.row)
    ⟨run_holds row reached, hkeeps.refl _⟩ ?_).2
  rintro calls ⟨hholds, hkept⟩ label -
  exact ⟨step_holds hholds label, hkeeps.trans hkept ((step_writes hholds label).row_kept hkeeps)⟩

theorem run_returnedKept (hkeeps : Keeps load change kept) (row : ρ) (labels : List (Label κ γ ε)) :
    ReturnedKept load change kept (run load change row labels).store := by
  have hfirst : ReturnedKept load change kept (⟨row, none, []⟩ : Store κ γ ρ) :=
    fun _ hentry => absurd hentry List.not_mem_nil
  refine (List.foldlRecOn labels (step load change) (b := .initial ⟨row, none, []⟩ .idle)
    (motive := fun calls => calls.Every (Holds load change) ∧
      ReturnedKept load change kept calls.store)
    ⟨fun _ => trivial, hfirst⟩ ?_).2
  rintro calls ⟨hholds, hreturned⟩ label -
  exact ⟨step_holds hholds label, (step_writes hholds label).returnedKept hkeeps hreturned⟩

end Kept

end Matcher.Foundation.RowLock
