import Mathlib.Data.List.Basic

/-!
# Pre- and postconditions

Two kinds of actions on a state: those that an exception may leave (`StateT σ (Except ε)`)
and those that may fail but keep what they have done (`OptionT (StateM σ)`).
`Triple pre x post` says of the first kind that, from a state in `pre`, what `x` returns
is in `post`; `Query pre x post` says of the second kind the same, with `none` for a
failure.  The rules follow the structure of an action.
-/

namespace GpsInformer.Lib

variable {ε σ α β ρ : Type} {pre : σ → Prop}

/-- What `x` returns from a state in `pre` is in `post`. -/
def Triple (pre : σ → Prop) (x : StateT σ (Except ε) α) (post : α → σ → Prop) : Prop :=
  ∀ s, pre s → ∀ a t, x.run s = .ok (a, t) → post a t

/-- What `x` gives from a state in `pre` is in `post`. -/
def Query (pre : σ → Prop) (x : OptionT (StateM σ) α) (post : Option α → σ → Prop) : Prop :=
  ∀ s, pre s → post (x.run.run s).1 (x.run.run s).2

section Triple

variable {x : StateT σ (Except ε) α} {f : α → StateT σ (Except ε) β} {post mid : α → σ → Prop}
  {last : β → σ → Prop}

theorem Triple.of_pure {a : α} (holds : ∀ s, pre s → post a s) :
    Triple pre (pure a : StateT σ (Except ε) α) post := by
  intro s met b t returned
  cases returned
  exact holds s met

theorem Triple.bind (first : Triple pre x mid) (rest : ∀ a, Triple (mid a) (f a) last) :
    Triple pre (x >>= f) last := by
  intro s met b u returned
  rw [StateT.run_bind] at returned
  cases first' : x.run s with
  | error e =>
      rw [first'] at returned
      cases returned
  | ok result =>
      obtain ⟨a, t⟩ := result
      rw [first'] at returned
      exact rest a t (first s met a t first') b u returned

theorem Triple.discarded {post : Unit → σ → Prop} (triple : Triple pre x fun _ => post ()) :
    Triple pre (discard x) post := by
  have sequence : discard x = x >>= fun _ => pure () := by
    rw [Functor.discard, map_const, Function.comp, map_eq_pure_bind]
  rw [sequence]
  exact triple.bind fun _ => Triple.of_pure fun _ holds => holds

theorem Triple.mono {pre' : σ → Prop} {post' : α → σ → Prop} (triple : Triple pre x post)
    (stronger : ∀ s, pre' s → pre s) (weaker : ∀ a s, post a s → post' a s) :
    Triple pre' x post' :=
  fun s met a t returned => weaker a t (triple s (stronger s met) a t returned)

/-- A condition on the state may be looked at state by state. -/
theorem Triple.of_forall (each : ∀ s, pre s → Triple (· = s) x post) : Triple pre x post :=
  fun s met => each s met s rfl

theorem Triple.strengthen {pre' : σ → Prop} (triple : Triple pre x post)
    (stronger : ∀ s, pre' s → pre s) : Triple pre' x post :=
  triple.mono stronger fun _ _ holds => holds

theorem Triple.weaken {post' : α → σ → Prop} (triple : Triple pre x post)
    (weaker : ∀ a s, post a s → post' a s) : Triple pre x post' :=
  triple.mono (fun _ met => met) weaker

/-- A fact that does not depend on the state can be taken out of a precondition. -/
theorem Triple.of_fact {fact : Prop} (triple : fact → Triple pre x post) :
    Triple (fun s => fact ∧ pre s) x post :=
  fun s met => triple met.1 s met.2

theorem Triple.of_modify {f : σ → σ} {post : Unit → σ → Prop} (holds : ∀ s, pre s → post () (f s)) :
    Triple pre (modify f : StateT σ (Except ε) Unit) post := by
  intro s met u t returned
  cases returned
  exact holds s met

theorem Triple.of_set {t : σ} {post : Unit → σ → Prop} (holds : ∀ s, pre s → post () t) :
    Triple pre (set t : StateT σ (Except ε) Unit) post := by
  intro s met u t' returned
  cases returned
  exact holds s met

theorem Triple.of_get : Triple pre (get : StateT σ (Except ε) σ) fun a s => a = s ∧ pre s := by
  intro s met a t returned
  cases returned
  exact ⟨rfl, met⟩

theorem Triple.get_bind {g : σ → StateT σ (Except ε) β}
    (rest : ∀ s, pre s → Triple (· = s) (g s) last) :
    Triple pre ((get : StateT σ (Except ε) σ) >>= g) last :=
  fun s met b t returned => rest s met s rfl b t returned

theorem Triple.of_throw (e : ε) : Triple pre (throw e : StateT σ (Except ε) α) post := by
  intro s _ a t returned
  cases returned

/-- The loop rule, with an invariant of the accumulator and the state. -/
theorem Triple.foldlM {inv : β → σ → Prop} {step : β → α → StateT σ (Except ε) β} (xs : List α)
    (keeps : ∀ a ∈ xs, ∀ b, Triple (inv b) (step b a) inv) (b : β) :
    Triple (inv b) (xs.foldlM step b) inv := by
  induction xs generalizing b with
  | nil => exact Triple.of_pure fun _ holds => holds
  | cons a xs ih =>
      rw [List.foldlM_cons]
      exact (keeps a (List.mem_cons_self ..) b).bind fun next =>
        ih (fun a' member => keeps a' (List.mem_cons_of_mem _ member)) next

theorem Triple.forM {inv : σ → Prop} {body : α → StateT σ (Except ε) PUnit} (xs : List α)
    (keeps : ∀ a ∈ xs, Triple inv (body a) fun _ => inv) :
    Triple inv (xs.forM body) fun _ => inv := by
  induction xs with
  | nil => exact Triple.of_pure fun _ holds => holds
  | cons a xs ih =>
      exact (keeps a (List.mem_cons_self ..)).bind fun _ =>
        ih fun a' member => keeps a' (List.mem_cons_of_mem _ member)

end Triple

section Query

variable {x : OptionT (StateM σ) α} {f : α → OptionT (StateM σ) β} {post mid : Option α → σ → Prop}
  {last : Option β → σ → Prop}

theorem Query.of_pure {a : α} (holds : ∀ s, pre s → post (some a) s) :
    Query pre (pure a : OptionT (StateM σ) α) post :=
  fun s met => holds s met

theorem Query.of_get {post : Option σ → σ → Prop} (holds : ∀ s, pre s → post (some s) s) :
    Query pre (get : OptionT (StateM σ) σ) post :=
  fun s met => holds s met

theorem Query.get_bind {g : σ → OptionT (StateM σ) β}
    (rest : ∀ s, pre s → Query (· = s) (g s) last) :
    Query pre ((get : OptionT (StateM σ) σ) >>= g) last :=
  fun s met => rest s met s rfl

theorem Query.of_modify {f : σ → σ} {post : Option Unit → σ → Prop}
    (holds : ∀ s, pre s → post (some ()) (f s)) :
    Query pre (modify f : OptionT (StateM σ) Unit) post :=
  fun s met => holds s met

theorem Query.bind (first : Query pre x mid) (fails : ∀ s, mid none s → last none s)
    (rest : ∀ a, Query (mid (some a)) (f a) last) : Query pre (x >>= f) last := by
  intro s met
  rw [OptionT.run_bind, Option.elimM, StateT.run_bind]
  have holds := first s met
  revert holds
  generalize x.run.run s = outcome
  intro holds
  obtain ⟨_ | a, t⟩ := outcome
  · exact fails t holds
  · exact rest a t holds

theorem Query.orElse {y : OptionT (StateM σ) α} (first : Query pre x mid)
    (second : Query (mid none) y post) (succeeds : ∀ a s, mid (some a) s → post (some a) s) :
    Query pre (x <|> y) post := by
  intro s met
  rw [OptionT.run_orElse, Option.elimM, StateT.run_bind]
  have holds := first s met
  revert holds
  generalize x.run.run s = outcome
  intro holds
  obtain ⟨_ | a, t⟩ := outcome
  · exact second t holds
  · exact succeeds a t holds

/-- The loop rule: an invariant that an iteration keeps also when it fails. -/
theorem Query.forM {inv : σ → Prop} {body : α → OptionT (StateM σ) PUnit} (xs : List α)
    (keeps : ∀ a ∈ xs, Query inv (body a) fun _ => inv) :
    Query inv (xs.forM body) fun _ => inv := by
  induction xs with
  | nil => exact Query.of_pure fun _ holds => holds
  | cons a xs ih =>
      refine (keeps a (List.mem_cons_self ..)).bind (fun _ holds => holds) fun _ => ?_
      exact ih fun a' member => keeps a' (List.mem_cons_of_mem _ member)

/-- A condition on the state may be looked at state by state. -/
theorem Query.of_forall {post : Option α → σ → Prop}
    (each : ∀ s, pre s → Query (· = s) x post) : Query pre x post :=
  fun s met => each s met s rfl

theorem Query.mono {pre' : σ → Prop} {post' : Option α → σ → Prop} (query : Query pre x post)
    (stronger : ∀ s, pre' s → pre s) (weaker : ∀ r s, post r s → post' r s) :
    Query pre' x post' :=
  fun s met => weaker _ _ (query s (stronger s met))

theorem Query.weaken {post' : Option α → σ → Prop} (query : Query pre x post)
    (weaker : ∀ r s, post r s → post' r s) : Query pre x post' :=
  query.mono (fun _ met => met) weaker

end Query

end GpsInformer.Lib
