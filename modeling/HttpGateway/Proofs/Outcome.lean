import HttpGateway.Exchange
import Mathlib.Data.List.Forall2

namespace HttpGateway

variable {α β σ : Type}

theorem exists_of_forall₂ {R : α → β → Prop} {as : List α} {bs : List β}
    (h : List.Forall₂ R as bs) {a : α} (ha : a ∈ as) : ∃ b ∈ bs, R a b := by
  induction h with
  | nil => cases ha
  | @cons a' b as bs hab _ ih =>
    rcases List.mem_cons.1 ha with rfl | ha
    · exact ⟨b, List.mem_cons_self, hab⟩
    · obtain ⟨b', hb', hrel⟩ := ih ha
      exact ⟨b', List.mem_cons_of_mem b hb', hrel⟩

namespace Outcome

variable {ε : Type}

@[simp]
theorem ok_bind (a : α) (f : α → Except ε β) : (Except.ok a >>= f) = f a := rfl

@[simp]
theorem error_bind (e : ε) (f : α → Except ε β) : (Except.error e >>= f) = .error e := rfl

@[simp]
theorem bind_eq_ok_iff {x : Except ε α} {f : α → Except ε β} {b : β} :
    (x >>= f) = .ok b ↔ ∃ a, x = .ok a ∧ f a = .ok b := by
  cases x <;> simp [bind, Except.bind]

@[simp]
theorem bind_eq_error_iff {x : Except ε α} {f : α → Except ε β} {e : ε} :
    (x >>= f) = .error e ↔ x = .error e ∨ ∃ a, x = .ok a ∧ f a = .error e := by
  cases x <;> simp [bind, Except.bind]

@[simp]
theorem map_eq_ok_iff {x : Except ε α} {f : α → β} {b : β} :
    x.map f = .ok b ↔ ∃ a, x = .ok a ∧ f a = b := by
  cases x <;> simp [Except.map]

@[simp]
theorem map_eq_error_iff {x : Except ε α} {f : α → β} {e : ε} :
    x.map f = .error e ↔ x = .error e := by
  cases x <;> simp [Except.map]

@[simp]
theorem map_ok (f : α → β) (a : α) : (Except.ok a : Except ε α).map f = .ok (f a) := rfl

@[simp]
theorem map_error (f : α → β) (e : ε) :
    (Except.error e : Except ε α).map f = .error e := rfl

@[simp]
theorem mapError_ok {δ : Type} (f : ε → δ) (a : α) : (Except.ok a).mapError f = .ok a := rfl

@[simp]
theorem mapError_error {δ : Type} (f : ε → δ) (e : ε) :
    (Except.error e : Except ε α).mapError f = .error (f e) := rfl

variable {f : α → Except ε β} {as : List α}

theorem mapM_eq_ok_iff {bs : List β} :
    as.mapM f = .ok bs ↔ List.Forall₂ (fun a b => f a = .ok b) as bs := by
  induction as generalizing bs with
  | nil =>
    rw [List.mapM_nil, List.forall₂_nil_left_iff]
    constructor
    · intro h
      cases h
      rfl
    · rintro rfl
      rfl
  | cons a as ih =>
    simp only [List.mapM_cons, bind_eq_ok_iff, ih, List.forall₂_cons_left_iff]
    constructor
    · rintro ⟨b, hb, bs, hbs, h⟩
      cases h
      exact ⟨b, bs, hb, hbs, rfl⟩
    · rintro ⟨b, bs, hb, hbs, rfl⟩
      exact ⟨b, hb, bs, hbs, rfl⟩

theorem mapM_congr {g : α → Except ε β} (h : ∀ a ∈ as, f a = g a) : as.mapM f = as.mapM g := by
  induction as with
  | nil => rfl
  | cons a as ih =>
    obtain ⟨ha, has⟩ := List.forall_mem_cons.1 h
    rw [List.mapM_cons, List.mapM_cons, ha, ih has]

theorem exists_of_mapM_eq_ok {bs : List β} (h : as.mapM f = .ok bs) :
    ∀ a ∈ as, ∃ b, f a = .ok b := by
  intro a ha
  obtain ⟨b, -, hb⟩ := exists_of_forall₂ (mapM_eq_ok_iff.1 h) ha
  exact ⟨b, hb⟩

theorem mapM_eq_error_iff {e : ε} :
    as.mapM f = .error e ↔ ∃ before a after, as = before ++ a :: after ∧
      (∀ b ∈ before, ∃ c, f b = .ok c) ∧ f a = .error e := by
  induction as with
  | nil =>
    rw [List.mapM_nil]
    constructor
    · intro h
      cases h
    · rintro ⟨before, a, after, h, -, -⟩
      cases before <;> cases h
  | cons a as ih =>
    simp only [List.mapM_cons, bind_eq_error_iff, ih]
    constructor
    · rintro (ha | ⟨b, hb, ⟨before, a', after, rfl, hbefore, ha'⟩ | ⟨bs, -, h⟩⟩)
      · exact ⟨[], a, as, rfl, by simp, ha⟩
      · exact ⟨a :: before, a', after, rfl, List.forall_mem_cons.2 ⟨⟨b, hb⟩, hbefore⟩, ha'⟩
      · cases h
    · rintro ⟨before, a', after, has, hbefore, ha'⟩
      cases before with
      | nil =>
        cases has
        exact .inl ha'
      | cons b before =>
        cases has
        obtain ⟨⟨c, hc⟩, hbefore⟩ := List.forall_mem_cons.1 hbefore
        exact .inr ⟨c, hc, .inl ⟨before, a', after, rfl, hbefore, ha'⟩⟩

end Outcome

namespace Serve

@[simp]
theorem outcome_pure (a : α) (s : Surroundings) (x : Exchange) :
    (pure a : Serve α).outcome s x = (.ok a, x) := rfl

@[simp]
theorem outcome_bind (k : Serve α) (f : α → Serve β) (s : Surroundings) (x : Exchange) :
    (k >>= f).outcome s x = match k.outcome s x with
      | (.ok a, y) => (f a).outcome s y
      | (.error e, y) => (.error e, y) := by
  simp only [outcome, ReaderT.run_bind, ExceptT.run_bind, StateT.run_bind, Id.run_bind]
  rcases Id.run ((k.run s).run.run x) with ⟨a | a, y⟩ <;> rfl

theorem outcome_bind_ok {k : Serve α} {f : α → Serve β} {s : Surroundings} {x y : Exchange} {a : α}
    (h : k.outcome s x = (.ok a, y)) : (k >>= f).outcome s x = (f a).outcome s y := by
  rw [outcome_bind, h]

@[simp]
theorem outcome_map (f : α → β) (k : Serve α) (s : Surroundings) (x : Exchange) :
    (f <$> k).outcome s x = ((k.outcome s x).1.map f, (k.outcome s x).2) := by
  rw [map_eq_pure_bind, outcome_bind]
  rcases k.outcome s x with ⟨a | a, y⟩ <;> rfl

@[simp]
theorem outcome_bind_some (k : Serve α) (s : Surroundings) (x : Exchange) :
    (k >>= fun a => pure (some a)).outcome s x =
      ((k.outcome s x).1.map some, (k.outcome s x).2) := by
  rw [bind_pure_comp, outcome_map]

end Serve

namespace Compile

def outcomeFrom (k : Compile α) (j : Journal) : Except Failure α × Journal := Id.run (k.run.run j)

@[simp]
theorem outcomeFrom_pure (a : α) (j : Journal) :
    (pure a : Compile α).outcomeFrom j = (.ok a, j) := rfl

@[simp]
theorem outcomeFrom_log (level : Level) (message : String) (j : Journal) :
    (log level message).outcomeFrom j = (.ok (), j ++ [.logged level message]) := rfl

@[simp]
theorem outcomeFrom_lift (r : Except Failure α) (j : Journal) :
    (lift r).outcomeFrom j = (r, j) := by
  cases r <;> rfl

@[simp]
theorem outcomeFrom_bind (k : Compile α) (f : α → Compile β) (j : Journal) :
    (k >>= f).outcomeFrom j = match k.outcomeFrom j with
      | (.ok a, j') => (f a).outcomeFrom j'
      | (.error e, j') => (.error e, j') := by
  simp only [outcomeFrom, ExceptT.run_bind, StateT.run_bind, Id.run_bind]
  rcases Id.run (k.run.run j) with ⟨a | a, j'⟩ <;> rfl

theorem outcomeFrom_bind_ok {k : Compile α} {f : α → Compile β} {j j' : Journal} {a : α}
    (h : k.outcomeFrom j = (.ok a, j')) : (k >>= f).outcomeFrom j = (f a).outcomeFrom j' := by
  rw [outcomeFrom_bind, h]

theorem outcomeFrom_bind_error {k : Compile α} {f : α → Compile β} {j j' : Journal} {e : Failure}
    (h : k.outcomeFrom j = (.error e, j')) : (k >>= f).outcomeFrom j = (.error e, j') := by
  rw [outcomeFrom_bind, h]

theorem outcomeFrom_bind_eq_ok_iff {k : Compile α} {f : α → Compile β} {j j' : Journal} {b : β} :
    (k >>= f).outcomeFrom j = (.ok b, j') ↔
      ∃ a i, k.outcomeFrom j = (.ok a, i) ∧ (f a).outcomeFrom i = (.ok b, j') := by
  rw [outcomeFrom_bind]
  rcases h : k.outcomeFrom j with ⟨e | a, i⟩
  · simp
  · constructor
    · intro hb
      exact ⟨a, i, rfl, hb⟩
    · rintro ⟨a', i', ha, hb⟩
      cases ha
      exact hb

theorem outcomeFrom_bind_eq_error_iff {k : Compile α} {f : α → Compile β} {j j' : Journal}
    {e : Failure} :
    (k >>= f).outcomeFrom j = (.error e, j') ↔ k.outcomeFrom j = (.error e, j') ∨
      ∃ a i, k.outcomeFrom j = (.ok a, i) ∧ (f a).outcomeFrom i = (.error e, j') := by
  rw [outcomeFrom_bind]
  rcases h : k.outcomeFrom j with ⟨e' | a, i⟩
  · simp
  · constructor
    · intro he
      exact .inr ⟨a, i, rfl, he⟩
    · rintro (h | ⟨a', i', ha, he⟩)
      · cases h
      · cases ha
        exact he

theorem outcomeFrom_tryCatch (k : Compile α) (h : Failure → Compile α) (j : Journal) :
    (tryCatch k h).outcomeFrom j = match k.outcomeFrom j with
      | (.ok a, j') => (.ok a, j')
      | (.error e, j') => (h e).outcomeFrom j' := by
  simp only [outcomeFrom, ExceptT.run_tryCatch, StateT.run_bind, Id.run_bind]
  rcases Id.run (k.run.run j) with ⟨a | a, j'⟩ <;> rfl

inductive InTurn (f : α → Compile β) : List α → Journal → List β → Journal → Prop
  | nil {j} : InTurn f [] j [] j
  | cons {a as b bs i j k} : (f a).outcomeFrom i = (.ok b, j) → InTurn f as j bs k →
      InTurn f (a :: as) i (b :: bs) k

theorem InTurn.exists_of_mem {f : α → Compile β} {as : List α} {bs : List β} {i k : Journal}
    (h : InTurn f as i bs k) {b : β} (hb : b ∈ bs) :
    ∃ a ∈ as, ∃ j l, (f a).outcomeFrom j = (.ok b, l) := by
  induction h with
  | nil => cases hb
  | @cons a as b' bs i j k ha _ ih =>
    rcases List.mem_cons.1 hb with rfl | hb
    · exact ⟨a, List.mem_cons_self, i, j, ha⟩
    · obtain ⟨a', ha', hrun⟩ := ih hb
      exact ⟨a', List.mem_cons_of_mem a ha', hrun⟩

theorem InTurn.length_eq {f : α → Compile β} {as : List α} {bs : List β} {i k : Journal}
    (h : InTurn f as i bs k) : as.length = bs.length := by
  induction h with
  | nil => rfl
  | cons _ _ ih => exact congrArg (· + 1) ih

theorem inTurn_keyed_iff {κ : Type} {key : α → κ} {f : α → Compile β} {as : List α}
    {bs : List (κ × β)} {i k : Journal} :
    InTurn (fun a => do return (key a, ← f a)) as i bs k ↔
      bs.map Prod.fst = as.map key ∧ InTurn f as i (bs.map Prod.snd) k := by
  induction as generalizing bs i with
  | nil =>
    constructor
    · intro h
      cases h
      exact ⟨rfl, .nil⟩
    · rintro ⟨hbs, h⟩
      cases List.map_eq_nil_iff.1 hbs
      cases h
      exact .nil
  | cons a as ih =>
    constructor
    · intro h
      cases h with
      | cons hb hbs =>
        obtain ⟨b, j, hb, h⟩ := outcomeFrom_bind_eq_ok_iff.1 hb
        cases h
        obtain ⟨hkeys, hbs⟩ := ih.1 hbs
        exact ⟨congrArg (key a :: ·) hkeys, .cons hb hbs⟩
    · rintro ⟨hkeys, h⟩
      cases bs with
      | nil => cases hkeys
      | cons b bs =>
        obtain ⟨hkey, hkeys⟩ := List.cons.inj hkeys
        cases h with
        | cons hb hbs =>
          refine .cons ?_ (ih.2 ⟨hkeys, hbs⟩)
          rw [outcomeFrom_bind_ok hb, outcomeFrom_pure, ← hkey]

theorem outcomeFrom_mapM_eq_ok_iff {f : α → Compile β} {as : List α} {bs : List β}
    {i k : Journal} : (as.mapM f).outcomeFrom i = (.ok bs, k) ↔ InTurn f as i bs k := by
  induction as generalizing i bs with
  | nil =>
    rw [List.mapM_nil, outcomeFrom_pure]
    constructor
    · intro h
      cases h
      exact .nil
    · intro h
      cases h
      rfl
  | cons a as ih =>
    simp only [List.mapM_cons, outcomeFrom_bind_eq_ok_iff, outcomeFrom_pure]
    constructor
    · rintro ⟨b, j, hb, bs', k', hbs, h⟩
      cases h
      exact .cons hb (ih.1 hbs)
    · intro h
      cases h with
      | cons hb hbs => exact ⟨_, _, hb, _, _, ih.2 hbs, rfl⟩

theorem outcomeFrom_mapM_eq_error_iff {f : α → Compile β} {as : List α} {e : Failure}
    {i k : Journal} : (as.mapM f).outcomeFrom i = (.error e, k) ↔
      ∃ before a after bs j, as = before ++ a :: after ∧ InTurn f before i bs j ∧
        (f a).outcomeFrom j = (.error e, k) := by
  induction as generalizing i with
  | nil =>
    rw [List.mapM_nil, outcomeFrom_pure]
    constructor
    · intro h
      cases h
    · rintro ⟨before, a, after, bs, j, h, -, -⟩
      cases before <;> cases h
  | cons a as ih =>
    simp only [List.mapM_cons, outcomeFrom_bind_eq_error_iff, ih, outcomeFrom_pure]
    constructor
    · rintro (ha | ⟨b, j, hb, ⟨before, a', after, bs, l, rfl, hbefore, ha'⟩ | ⟨bs, l, -, h⟩⟩)
      · exact ⟨[], a, as, [], i, rfl, .nil, ha⟩
      · exact ⟨a :: before, a', after, b :: bs, l, rfl, .cons hb hbefore, ha'⟩
      · cases h
    · rintro ⟨before, a', after, bs, l, has, hbefore, ha'⟩
      cases hbefore with
      | nil =>
        cases has
        exact .inl ha'
      | @cons a₀ before b bs i j l hb hbefore =>
        cases has
        exact .inr ⟨b, j, hb, .inl ⟨before, a', after, bs, l, rfl, hbefore, ha'⟩⟩

theorem foldlM_keeps {step : σ → α → Compile σ} (P : σ → Prop) (as : List α)
    (h : ∀ c a c' i j, P c → (step c a).outcomeFrom i = (.ok c', j) → P c') {c c' : σ}
    {i j : Journal} (hc : P c) (hr : (as.foldlM step c).outcomeFrom i = (.ok c', j)) : P c' := by
  induction as generalizing c i with
  | nil =>
    rw [List.foldlM_nil, outcomeFrom_pure] at hr
    cases hr
    exact hc
  | cons a as ih =>
    rw [List.foldlM_cons, outcomeFrom_bind_eq_ok_iff] at hr
    obtain ⟨d, k, hd, hr⟩ := hr
    exact ih (h c a d i k hc hd) hr

end Compile

end HttpGateway
