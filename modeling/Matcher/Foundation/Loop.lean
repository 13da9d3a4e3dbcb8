import Mathlib.Data.List.Forall2
import Mathlib.Data.List.ProdSigma

/-!
# Fallible loops

A loop that may return early with an error is a monadic fold in `Except`.  The
rules below read a successful loop backwards: every step of it succeeded, and
an invariant that each step preserves holds when the loop ends.
-/

namespace Matcher.Foundation

universe u v w

variable {ε : Type u} {α : Type v} {σ : Type w}

variable {α β : Type v} {items : List α} {body : σ → α → Except ε σ}
  {start finish : σ}

theorem bind_eq_ok {first : Except ε α} {next : α → Except ε β} {result : β} :
    (first >>= next) = .ok result ↔ ∃ value, first = .ok value ∧ next value = .ok result := by
  cases first with
  | error =>
    constructor
    · intro h
      cases h
    · rintro ⟨value, hvalue, -⟩
      cases hvalue
  | ok value =>
    constructor
    · intro h
      exact ⟨value, rfl, h⟩
    · rintro ⟨value', hvalue, hnext⟩
      cases hvalue
      exact hnext

theorem check_eq_ok {β : Type} {check : Except ε Unit} {next : Except ε β} {result : β} :
    (check >>= fun _ => next) = .ok result ↔ check = .ok () ∧ next = .ok result := by
  rw [bind_eq_ok]
  constructor
  · rintro ⟨⟨⟩, hcheck, hnext⟩
    exact ⟨hcheck, hnext⟩
  · rintro ⟨hcheck, hnext⟩
    exact ⟨(), hcheck, hnext⟩

theorem guard_eq_ok {refused : Prop} [Decidable refused] {failure : ε}
    {next : Except ε α} {result : α} :
    (if refused then .error failure else next) = .ok result ↔ ¬ refused ∧ next = .ok result := by
  split
  next hrefused => simp [hrefused]
  next hpassed => simp [hpassed]

theorem mapError_eq_ok {ε' : Type u} {f : ε → ε'} {result : Except ε α} {value : α} :
    result.mapError f = .ok value ↔ result = .ok value := by
  cases result with
  | error | ok => simp [Except.mapError]

theorem mapM_eq_ok {f : α → Except ε β} {results : List β} (h : items.mapM f = .ok results) :
    List.Forall₂ (fun item result => f item = .ok result) items results := by
  induction items generalizing results with
  | nil =>
    cases h
    exact .nil
  | cons _ _ ih =>
    rw [List.mapM_cons] at h
    obtain ⟨first, hfirst, h⟩ := bind_eq_ok.mp h
    obtain ⟨others, hothers, h⟩ := bind_eq_ok.mp h
    cases h
    exact .cons hfirst (ih hothers)

theorem exists_left_of_forall₂ {β : Type w} {related : α → β → Prop}
    {first : List α} {second : List β} (h : List.Forall₂ related first second)
    {partner : β} (hpartner : partner ∈ second) :
    ∃ member ∈ first, related member partner := by
  induction h with
  | nil => cases hpartner
  | @cons member _ _ _ hfirst _ ih =>
    rcases List.mem_cons.mp hpartner with rfl | hrest
    · exact ⟨member, List.mem_cons_self, hfirst⟩
    · obtain ⟨found, hfound, hrelated⟩ := ih hrest
      exact ⟨found, List.mem_cons_of_mem _ hfound, hrelated⟩

theorem exists_right_of_forall₂ {β : Type w} {related : α → β → Prop}
    {first : List α} {second : List β} (h : List.Forall₂ related first second)
    {member : α} (hmember : member ∈ first) :
    ∃ partner ∈ second, related member partner := by
  have hflipped : List.Forall₂ (flip related) second first := List.Forall₂.flip h
  exact exists_left_of_forall₂ hflipped hmember

theorem foldlM_cons_eq_ok {item : α} {rest : List α} :
    (item :: rest).foldlM body start = .ok finish ↔
      ∃ middle, body start item = .ok middle ∧ rest.foldlM body middle = .ok finish := by
  rw [List.foldlM_cons, bind_eq_ok]

theorem foldlM_append_eq_ok {first second : List α} :
    (first ++ second).foldlM body start = .ok finish ↔
      ∃ middle, first.foldlM body start = .ok middle ∧ second.foldlM body middle = .ok finish := by
  rw [List.foldlM_append, bind_eq_ok]

theorem foldlM_step {done rest : List α} {item : α} {state : σ}
    (hdone : done.foldlM body start = .ok state)
    (h : (done ++ item :: rest).foldlM body start = .ok finish) :
    ∃ next, body state item = .ok next ∧ rest.foldlM body next = .ok finish := by
  obtain ⟨middle, hmiddle, htail⟩ := foldlM_append_eq_ok.mp h
  cases hdone.symm.trans hmiddle
  exact foldlM_cons_eq_ok.mp htail

theorem map_eq_ok {value : Except ε α} {f : α → β} {result : β} :
    f <$> value = .ok result ↔ ∃ inner, value = .ok inner ∧ f inner = result := by
  cases value with
  | error =>
    constructor
    · intro h
      cases h
    · rintro ⟨inner, hinner, -⟩
      cases hinner
  | ok inner =>
    constructor
    · intro h
      exact ⟨inner, rfl, Except.ok.inj h⟩
    · rintro ⟨inner', hinner, rfl⟩
      cases hinner
      rfl

/-- A result is known when enough of it can be computed. -/
theorem exists_ok_of_map {value : Except ε α} {f : α → β} {property : α → Prop} (result : β)
    (h : f <$> value = .ok result)
    (hproperty : ∀ inner, value = .ok inner → f inner = result → property inner) :
    ∃ inner, value = .ok inner ∧ property inner := by
  obtain ⟨inner, hinner, hresult⟩ := map_eq_ok.mp h
  exact ⟨inner, hinner, hproperty inner hinner hresult⟩

theorem map_eq_error {value : Except ε α} {f : α → β} {failure : ε} :
    f <$> value = .error failure ↔ value = .error failure := by
  cases value with
  | error =>
    constructor
    · intro h
      cases h
      rfl
    · intro h
      cases h
      rfl
  | ok =>
    constructor
    · intro h
      cases h
    · intro h
      cases h

theorem foldlM_product {body : α → σ → β → Except ε σ} (outer : List α) (inner : List β)
    (start : σ) :
    (outer ×ˢ inner).foldlM (fun state pair => body pair.1 state pair.2) start =
      outer.foldlM (fun state item => inner.foldlM (body item) state) start := by
  induction outer generalizing start with
  | nil => rfl
  | cons _ _ ih =>
    rw [List.product_cons, List.foldlM_append, List.foldlM_map, List.foldlM_cons]
    exact bind_congr fun state => ih state

/--
The loop rule.  At each step the invariant may use that the items already done
led to the current state and that the rest is still to come.
-/
theorem foldlM_trace_invariant (invariant : List α → σ → Prop) (hstart : invariant [] start)
    (hstep : ∀ done item rest state state', items = done ++ item :: rest →
      done.foldlM body start = .ok state → invariant done state →
        body state item = .ok state' → invariant (done ++ [item]) state')
    (hloop : items.foldlM body start = .ok finish) :
    invariant items finish := by
  suffices h : ∀ (rest done : List α) (state : σ), items = done ++ rest →
      done.foldlM body start = .ok state → invariant done state →
        rest.foldlM body state = .ok finish → invariant (done ++ rest) finish by
    simpa using h items [] start rfl rfl hstart hloop
  intro rest
  induction rest with
  | nil =>
    intro done state _ _ hstate hrest
    cases hrest
    simpa using hstate
  | cons item rest ih =>
    intro done state hitems hdone hstate hrest
    obtain ⟨middle, hbody, htail⟩ := foldlM_cons_eq_ok.mp hrest
    have hmiddle : invariant (done ++ [item]) middle :=
      hstep done item rest state middle hitems hdone hstate hbody
    have hprogress : (done ++ [item]).foldlM body start = .ok middle := by
      refine foldlM_append_eq_ok.mpr ⟨state, hdone, ?_⟩
      exact foldlM_cons_eq_ok.mpr ⟨middle, hbody, rfl⟩
    simpa using ih (done ++ [item]) middle (by simpa using hitems) hprogress hmiddle htail

/-- The loop rule for an invariant that speaks of the items already done. -/
theorem foldlM_invariant (invariant : List α → σ → Prop) (hstart : invariant [] start)
    (hstep : ∀ done item state state', item ∈ items →
      invariant done state → body state item = .ok state' →
        invariant (done ++ [item]) state') (hloop : items.foldlM body start = .ok finish) :
    invariant items finish := by
  refine foldlM_trace_invariant invariant hstart ?_ hloop
  intro done item rest state state' hitems _ hstate hbody
  exact hstep done item state state' (by simp [hitems]) hstate hbody

theorem foldlM_preserves (invariant : σ → Prop) (hstart : invariant start)
    (hstep : ∀ item state state', item ∈ items → invariant state →
      body state item = .ok state' → invariant state')
    (hloop : items.foldlM body start = .ok finish) :
    invariant finish :=
  foldlM_invariant (fun _ state => invariant state) hstart
    (fun _ item state state' hmem hstate hbody =>
      hstep item state state' hmem hstate hbody)
    hloop

theorem foldlM_step_of_mem (invariant : σ → Prop) (hstart : invariant start)
    (hstep : ∀ item state state', item ∈ items → invariant state →
      body state item = .ok state' → invariant state')
    (hloop : items.foldlM body start = .ok finish) :
    ∀ item ∈ items, ∃ state state', invariant state ∧ body state item = .ok state' := by
  refine (foldlM_invariant (fun done state => invariant state ∧
    ∀ item ∈ done, ∃ state state', invariant state ∧
      body state item = .ok state') ⟨hstart, by simp⟩ ?_ hloop).2
  rintro done item state state' hmem ⟨hstate, hdone⟩ hbody
  refine ⟨hstep item state state' hmem hstate hbody, ?_⟩
  intro other hother
  rcases List.mem_append.mp hother with hother | hother
  · exact hdone other hother
  · rw [List.mem_singleton.mp hother]
    exact ⟨state, state', hstate, hbody⟩

/-! ## Errors of a computation -/

def FailsOnly {α : Type v} (property : ε → Prop) (computation : Except ε α) : Prop :=
  ∀ failure, computation = .error failure → property failure

namespace FailsOnly

variable {property : ε → Prop}

theorem ok {α : Type v} (value : α) : FailsOnly property (Except.ok value : Except ε α) := by
  intro failure h
  cases h

theorem error {α : Type v} {failure : ε} (h : property failure) :
    FailsOnly property (Except.error failure : Except ε α) := by
  intro other hother
  cases hother
  exact h

theorem bind {first : Except ε α} {next : α → Except ε β} (hfirst : FailsOnly property first)
    (hnext : ∀ value, FailsOnly property (next value)) :
    FailsOnly property (first >>= next) := by
  cases first with
  | error failure => exact error (hfirst failure rfl)
  | ok value => exact hnext value

theorem mapError {α : Type v} {weaker : ε → Prop} {f : ε → ε} {computation : Except ε α}
    (h : FailsOnly property computation) (himp : ∀ failure, property failure → weaker (f failure)) :
    FailsOnly weaker (computation.mapError f) := by
  cases computation with
  | error failure => exact error (himp failure (h failure rfl))
  | ok value => exact ok value

theorem foldlM {body : σ → α → Except ε σ} {items : List α}
    (h : ∀ state, ∀ item ∈ items, FailsOnly property (body state item)) (start : σ) :
    FailsOnly property (items.foldlM body start) := by
  induction items generalizing start with
  | nil => exact ok start
  | cons item _ ih =>
    rw [List.foldlM_cons]
    refine bind (h start item (by simp)) fun middle => ?_
    exact ih (fun state other hother =>
      h state other (List.mem_cons_of_mem item hother)) middle

theorem map_iff {f : α → β} {computation : Except ε α} :
    FailsOnly property (f <$> computation) ↔ FailsOnly property computation := by
  unfold FailsOnly
  simp only [map_eq_error]

theorem exists_ok {computation : Except ε α} (h : FailsOnly (fun _ => False) computation) :
    ∃ value, computation = .ok value := by
  cases computation with
  | error failure => exact (h failure rfl).elim
  | ok value => exact ⟨value, rfl⟩

end FailsOnly

theorem foldlM_succeeds_iff :
    (∃ finish, items.foldlM body start = .ok finish) ↔
      ∀ done item rest state, items = done ++ item :: rest →
        done.foldlM body start = .ok state → ∃ state', body state item = .ok state' := by
  constructor
  · rintro ⟨finish, hloop⟩ done item rest state rfl hdone
    obtain ⟨next, hstep, -⟩ := foldlM_step hdone hloop
    exact ⟨next, hstep⟩
  · intro h
    induction items generalizing start with
    | nil => exact ⟨start, rfl⟩
    | cons item rest ih =>
      obtain ⟨middle, hstep⟩ := h [] item rest start rfl rfl
      have hrest : ∃ finish, rest.foldlM body middle = .ok finish := by
        apply ih
        intro done other tail state hitems hdone
        refine h (item :: done) other tail state ?_ ?_
        · rw [hitems, List.cons_append]
        · exact foldlM_cons_eq_ok.mpr ⟨middle, hstep, hdone⟩
      obtain ⟨finish, hfinish⟩ := hrest
      exact ⟨finish, foldlM_cons_eq_ok.mpr ⟨middle, hstep, hfinish⟩⟩

theorem foldlM_succeeds_iff_forall {accepted : α → Prop}
    (h : ∀ state, ∀ item ∈ items, ((∃ state', body state item = .ok state') ↔ accepted item)) :
    (∃ finish, items.foldlM body start = .ok finish) ↔ ∀ item ∈ items, accepted item := by
  constructor
  · rintro ⟨finish, hloop⟩ item hitem
    obtain ⟨state, state', -, hstep⟩ := foldlM_step_of_mem (fun _ => True)
      trivial (fun _ _ _ _ _ _ => trivial) hloop item hitem
    exact (h state item hitem).mp ⟨state', hstep⟩
  · intro hall
    refine foldlM_succeeds_iff.mpr ?_
    intro done item rest state hitems _
    have hitem : item ∈ items := by simp [hitems]
    exact (h state item hitem).mpr (hall item hitem)

theorem foldlM_image {τ : Type w} {imageBody : τ → β → Except ε τ} (image : σ → τ)
    (translate : α → β)
    (h : ∀ state item, imageBody (image state) (translate item) = image <$> body state item)
    (items : List α) (start : σ) :
    (items.map translate).foldlM imageBody (image start) = image <$> items.foldlM body start := by
  induction items generalizing start with
  | nil => rfl
  | cons item _ ih =>
    rw [List.map_cons, List.foldlM_cons, List.foldlM_cons, h]
    cases body start item with
    | error => rfl
    | ok middle => exact ih middle

end Matcher.Foundation
