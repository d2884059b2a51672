import Mathlib.Data.List.Forall2
import Mathlib.Data.Set.Functor

/-! Steps that may fail, one after the other. The whole succeeds when each step does. -/

namespace ApiToolbox

variable {α β ε : Type}

theorem bind_eq_ok_iff {x : Except ε α} {f : α → Except ε β} {b : β} :
    x >>= f = .ok b ↔ ∃ a, x = .ok a ∧ f a = .ok b := by
  cases x with
  | error e => simp [bind, Except.bind]
  | ok a => simp [bind, Except.bind]

theorem map_eq_ok_iff {x : Except ε α} {f : α → β} {b : β} :
    x.map f = .ok b ↔ ∃ a, x = .ok a ∧ f a = b := by
  cases x with
  | error e => simp [Except.map]
  | ok a => simp [Except.map]

theorem mapError_eq_ok_iff {ε' : Type} {x : Except ε α} {f : ε → ε'} {a : α} :
    x.mapError f = .ok a ↔ x = .ok a := by
  cases x with
  | error e => simp [Except.mapError]
  | ok a => simp [Except.mapError]

theorem eq_run_bind_iff {σ : Type} {c : StateM σ α} {f : α → StateM σ β} {s : σ} {r : β × σ} :
    r = (c >>= f).run s ↔ ∃ a s', (a, s') = c.run s ∧ r = (f a).run s' := by
  constructor
  · rintro rfl
    exact ⟨_, _, rfl, rfl⟩
  · rintro ⟨a, s', ha, rfl⟩
    rw [StateT.run_bind, ← ha]
    rfl

theorem exists_of_mem_forall₂ {R : α → β → Prop} {as : List α} {bs : List β}
    (h : List.Forall₂ R as bs) {b : β} (hb : b ∈ bs) : ∃ a ∈ as, R a b := by
  induction h with
  | nil => simp at hb
  | cons hab _ ih =>
    rcases List.mem_cons.mp hb with rfl | hb
    · exact ⟨_, by simp, hab⟩
    · obtain ⟨a, ha, hr⟩ := ih hb
      exact ⟨a, by simp [ha], hr⟩

/-- A partial function has values along a list when it has one at each place. -/
theorem mapM_eq_some_iff {f : α → Option β} {as : List α} {bs : List β} :
    as.mapM f = some bs ↔ List.Forall₂ (fun a b => f a = some b) as bs := by
  induction as generalizing bs with
  | nil => simp [eq_comm]
  | cons a r ih =>
    simp only [List.mapM_cons, Option.bind_eq_bind, Option.bind_eq_some_iff, Option.pure_def,
      Option.some.injEq, ih]
    constructor
    · rintro ⟨b, hb, bs, hbs, rfl⟩
      exact .cons hb hbs
    · intro h
      cases h with
      | cons hb hbs => exact ⟨_, hb, _, hbs, rfl⟩

/-! ### Collecting -/

section Collect

variable {σ κ : Type} (f : α → StateM σ (Option β))

/-- Take a step for each item, and keep what the steps give. -/
def collect (as : List α) : StateM σ (List β) := do
  let found ← as.mapM f
  return found.filterMap id

@[simp] theorem run_collect_nil (s : σ) : (collect f []).run s = ([], s) := rfl

theorem run_collect_cons (a : α) (as : List α) (s : σ) : (collect f (a :: as)).run s =
    (((f a).run s).1.toList ++ ((collect f as).run ((f a).run s).2).1,
      ((collect f as).run ((f a).run s).2).2) := by
  have hkept (o : Option β) (os : List (Option β)) :
      (o :: os).filterMap id = o.toList ++ os.filterMap id := by
    cases o <;> simp
  simp only [collect, List.mapM_cons, StateT.run_bind, StateT.run_pure, pure_bind, bind_assoc]
  exact Prod.ext (hkept _ _) rfl

/-- Where the items have distinct names, and a step gives a thing of the name of its item, what is kept
under a name comes from one step, taken after those for the items in front. -/
theorem filter_collect [DecidableEq κ] (name : α → κ) (key : β → κ)
    (hkey : ∀ a s, ∀ b ∈ ((f a).run s).1, key b = name a) {as : List α} (h : (as.map name).Nodup)
    (k : κ) (s : σ) : ((collect f as).run s).1.filter (key · = k) =
      match as.find? (name · = k) with
      | none => []
      | some a => ((f a).run ((collect f (as.takeWhile (name · ≠ k))).run s).2).1.toList := by
  induction as generalizing s with
  | nil => simp
  | cons a rest ih =>
    obtain ⟨hnot, hrest⟩ := List.nodup_cons.mp h
    have ih := ih hrest ((f a).run s).2
    rw [run_collect_cons, List.filter_append]
    by_cases ha : name a = k
    · have hnone : rest.find? (name · = k) = none := by
        rw [List.find?_eq_none]
        intro b hb
        have hne : name b ≠ name a := fun heq => hnot (heq ▸ List.mem_map_of_mem hb)
        simpa [← ha] using hne
      have hself : ((f a).run s).1.toList.filter (key · = k) = ((f a).run s).1.toList := by
        rw [List.filter_eq_self]
        intro b hb
        simpa [← ha] using hkey a s b (by simpa using hb)
      rw [ih, hnone, hself]
      simp [ha]
    · have hempty : ((f a).run s).1.toList.filter (key · = k) = [] := by
        rw [List.filter_eq_nil_iff]
        intro b hb
        simpa [hkey a s b (by simpa using hb)] using ha
      rw [ih, hempty]
      simp [ha, run_collect_cons]

end Collect

/-! ### State that does not show -/

section Oblivious

variable {σ : Type} {G : σ → Prop} {s₀ : σ} {H : Prop} {P : α → Prop} {Q : β → Prop}

/-- A step that keeps the state good and, where `H` holds, gives what it gives in the state `s₀`, in
whatever good state it is taken. What it gives has the property `P`. -/
structure Oblivious (G : σ → Prop) (s₀ : σ) (H : Prop) (c : StateM σ α) (P : α → Prop) : Prop where
  good : ∀ s, G s → G (c.run s).2
  same : H → ∀ s, G s → (c.run s).1 = (c.run s₀).1
  gives : H → P (c.run s₀).1

namespace Oblivious

theorem pure {a : α} (h : H → P a) : Oblivious G s₀ H (pure a) P where
  good _ hs := hs
  same _ _ _ := rfl
  gives := h

theorem mono {H' : Prop} {c : StateM σ α} (h : Oblivious G s₀ H c P) (hH : H' → H) :
    Oblivious G s₀ H' c P where
  good := h.good
  same h' := h.same (hH h')
  gives h' := h.gives (hH h')

theorem bind {c : StateM σ α} {f : α → StateM σ β} (h₀ : G s₀) (hc : Oblivious G s₀ H c P)
    (hf : ∀ a, Oblivious G s₀ (H ∧ P a) (f a) Q) : Oblivious G s₀ H (c >>= f) Q where
  good s hs := (hf _).good _ (hc.good s hs)
  same h s hs := by
    have hgiven := hf (c.run s₀).1
    have hholds := And.intro h (hc.gives h)
    calc ((c >>= f).run s).1 = ((f (c.run s).1).run (c.run s).2).1 := rfl
      _ = ((f (c.run s₀).1).run (c.run s).2).1 := by rw [hc.same h s hs]
      _ = ((f (c.run s₀).1).run s₀).1 := hgiven.same hholds _ (hc.good s hs)
      _ = ((f (c.run s₀).1).run (c.run s₀).2).1 := (hgiven.same hholds _ (hc.good s₀ h₀)).symm
  gives h := by
    have hgiven := hf (c.run s₀).1
    have hholds := And.intro h (hc.gives h)
    have heq : ((c >>= f).run s₀).1 = ((f (c.run s₀).1).run s₀).1 :=
      hgiven.same hholds _ (hc.good s₀ h₀)
    rw [heq]
    exact hgiven.gives hholds

section Each

variable {f : α → StateM σ β} {H : α → Prop} {P : α → β → Prop} {as : List α}

theorem good_mapM (h : ∀ a ∈ as, Oblivious G s₀ (H a) (f a) (P a)) {s : σ} (hs : G s) :
    G ((as.mapM f).run s).2 := by
  induction as generalizing s with
  | nil => exact hs
  | cons a rest ih =>
    rw [List.mapM_cons]
    have ha := (h a List.mem_cons_self).good s hs
    exact ih (fun b hb => h b (List.mem_cons_of_mem _ hb)) ha

/-- Steps one after the other: each gives what it gives in a good state. -/
theorem forall₂_mapM (h : ∀ a ∈ as, Oblivious G s₀ (H a) (f a) (P a)) {s : σ} (hs : G s) :
    List.Forall₂ (fun a b => ∃ s', G s' ∧ b = ((f a).run s').1) as ((as.mapM f).run s).1 := by
  induction as generalizing s with
  | nil => exact .nil
  | cons a rest ih =>
    rw [List.mapM_cons]
    have ha := (h a List.mem_cons_self).good s hs
    exact .cons ⟨s, hs, rfl⟩ (ih (fun b hb => h b (List.mem_cons_of_mem _ hb)) ha)

theorem fst_mapM (h : ∀ a ∈ as, Oblivious G s₀ (H a) (f a) (P a)) (hH : ∀ a ∈ as, H a) {s : σ}
    (hs : G s) : ((as.mapM f).run s).1 = as.map fun a => ((f a).run s₀).1 := by
  have heach := forall₂_mapM h hs
  generalize ((as.mapM f).run s).1 = bs at heach
  induction heach with
  | nil => rfl
  | cons hb _ ih =>
    obtain ⟨s', hs', rfl⟩ := hb
    have ha := (h _ List.mem_cons_self).same (hH _ List.mem_cons_self) s' hs'
    have hrest := ih (fun a ha => h a (List.mem_cons_of_mem _ ha)) fun a ha =>
      hH a (List.mem_cons_of_mem _ ha)
    rw [List.map_cons, ha, hrest]

theorem mapM (h₀ : G s₀) (h : ∀ a ∈ as, Oblivious G s₀ (H a) (f a) (P a)) :
    Oblivious G s₀ (∀ a ∈ as, H a) (as.mapM f) fun _ => True where
  good _ hs := good_mapM h hs
  same hH _ hs := (fst_mapM h hH hs).trans (fst_mapM h hH h₀).symm
  gives _ := trivial

end Each

end Oblivious

end Oblivious

/-! ### Steps that agree -/

section Agrees

variable {α' β' σ : Type} {G : σ → Prop}

/-- Two steps that keep the state good and give related things, in whatever good states they are taken. -/
structure Agrees (G : σ → Prop) (c : StateM σ α) (c' : StateM σ α') (R : α → α' → Prop) : Prop where
  good : ∀ s, G s → G (c.run s).2
  good' : ∀ s, G s → G (c'.run s).2
  gives : ∀ s s', G s → G s' → R (c.run s).1 (c'.run s').1

theorem Oblivious.agrees {s₀ : σ} {H : Prop} {P : α → Prop} {c : StateM σ α}
    (h : Oblivious G s₀ H c P) (hH : H) : Agrees G c c fun a b => a = b ∧ P a where
  good := h.good
  good' := h.good
  gives s s' hs hs' := by
    rw [h.same hH s hs, h.same hH s' hs']
    exact ⟨rfl, h.gives hH⟩

namespace Agrees

variable {R : α → α' → Prop} {Q : β → β' → Prop}

theorem pure {a : α} {a' : α'} (h : R a a') : Agrees G (pure a) (pure a') R where
  good _ hs := hs
  good' _ hs := hs
  gives _ _ _ _ := h

theorem bind {c : StateM σ α} {c' : StateM σ α'} {f : α → StateM σ β} {f' : α' → StateM σ β'}
    (hc : Agrees G c c' R) (hf : ∀ a a', R a a' → Agrees G (f a) (f' a') Q) :
    Agrees G (c >>= f) (c' >>= f') Q where
  good s hs := (hf _ _ (hc.gives s s hs hs)).good _ (hc.good s hs)
  good' s hs := (hf _ _ (hc.gives s s hs hs)).good' _ (hc.good' s hs)
  gives s s' hs hs' := (hf _ _ (hc.gives s s' hs hs')).gives _ _ (hc.good s hs) (hc.good' s' hs')

theorem mapM {f : α → StateM σ β} {f' : α' → StateM σ β'} {as : List α} {as' : List α'}
    (h : List.Forall₂ (fun a a' => Agrees G (f a) (f' a') Q) as as') :
    Agrees G (as.mapM f) (as'.mapM f') (List.Forall₂ Q) := by
  induction h with
  | nil => exact pure .nil
  | cons ha _ ih =>
    rw [List.mapM_cons, List.mapM_cons]
    exact ha.bind fun b b' hb => ih.bind fun bs bs' hbs => pure (.cons hb hbs)

end Agrees

end Agrees

/-! ### Steps that are told by rules -/

section Settles

variable {σ : Type} {G : σ → Prop} {P : α → Prop} {Q : β → Prop}

/-- A step that is told by rules has one outcome in every good state, that of a step that computes. This
one keeps the state good, and what it gives has the property `P`. -/
structure Settles (G : σ → Prop) (c' : StateT σ SetM α) (c : StateM σ α) (P : α → Prop) : Prop where
  run : ∀ s, G s → (c'.run s).run = {c.run s}
  good : ∀ s, G s → G (c.run s).2
  gives : ∀ s, G s → P (c.run s).1

namespace Settles

theorem pure {a : α} (h : P a) : Settles G (pure a) (pure a) P where
  run _ _ := rfl
  good _ hs := hs
  gives _ _ := h

theorem bind {c' : StateT σ SetM α} {c : StateM σ α} {f' : α → StateT σ SetM β}
    {f : α → StateM σ β} (hc : Settles G c' c P) (hf : ∀ a, P a → Settles G (f' a) (f a) Q) :
    Settles G (c' >>= f') (c >>= f) Q where
  run s hs := by
    have hrest := hf _ (hc.gives s hs)
    calc ((c' >>= f').run s).run = ⋃ r ∈ (c'.run s).run, ((f' r.1).run r.2).run := rfl
      _ = ((f' (c.run s).1).run (c.run s).2).run := by rw [hc.run s hs, Set.biUnion_singleton]
      _ = {(c >>= f).run s} := hrest.run _ (hc.good s hs)
  good s hs := (hf _ (hc.gives s hs)).good _ (hc.good s hs)
  gives s hs := (hf _ (hc.gives s hs)).gives _ (hc.good s hs)

theorem mapM {f' : α → StateT σ SetM β} {f : α → StateM σ β} {as : List α}
    (h : ∀ a ∈ as, Settles G (f' a) (f a) fun _ => True) :
    Settles G (as.mapM f') (as.mapM f) fun _ => True := by
  induction as with
  | nil => exact pure trivial
  | cons a rest ih =>
    rw [List.mapM_cons, List.mapM_cons]
    refine (h a List.mem_cons_self).bind fun b _ => ?_
    exact (ih fun a ha => h a (List.mem_cons_of_mem _ ha)).bind fun bs _ => pure trivial

end Settles

end Settles

end ApiToolbox
