import Mathlib.Algebra.GroupWithZero.Nat
import Mathlib.Algebra.Order.Group.Nat
import Mathlib.Algebra.BigOperators.Group.List.Basic

/-!
# Finite runs of a labelled step relation

A labelled step relation `step s a t` says that the system may go from the
state `s` to the state `t` while showing the label `a`.  A run is a finite
sequence of steps together with the labels it showed, oldest first.

The rules below package the inductions over runs once:

* `Run.preserves`: an invariant of every step is an invariant of every run;
* `Run.relates`: a reflexive, transitive relation respected by every step
  relates the two ends of every run;
* `Run.forall_labels`: an invariant that excludes a label at every step
  excludes it along every run;
* `Run.history`: an invariant may speak about the labels shown so far;
* `Run.exists_entry`: a property a run ends with is entered by one of its steps;
* `Run.within_of_end`: a property that is never entered and holds at the end
  holds all along;
* `Run.gain_le` and `Run.loss_le`: a potential bounds the total weight of the
  labels of a run;
* `serve_run`: serving a list of requests by a request handler is a run;
* `Run.guarded_iff_always`: when a guard on steps is exactly what keeps a
  property of states, the runs whose steps all meet the guard are exactly the
  runs whose states all have the property.
-/

namespace Aiphabee.Transition

variable {σ : Type u}
variable {α : Type v}

universe u v

section LabelledRuns

/-- Finite runs of a labelled step relation, oldest label first. -/
inductive Run
    (step : σ → α → σ → Prop) :
    σ → List α → σ → Prop
  | nil (s : σ) :
      Run step s [] s
  | cons
      {s t r : σ} {a : α} {as : List α}
      (hstep : step s a t)
      (hrun : Run step t as r) :
      Run step s (a :: as) r

variable {step : σ → α → σ → Prop}

namespace Run

@[simp] theorem nil_iff {s t : σ} : Run step s [] t ↔ s = t := by
  constructor
  · intro h
    cases h
    rfl
  · rintro rfl
    exact Run.nil s

theorem cons_iff {s t : σ} {a : α} {as : List α} :
    Run step s (a :: as) t ↔
      ∃ r, step s a r ∧ Run step r as t := by
  constructor
  · intro h
    cases h with
    | cons hstep hrun => exact ⟨_, hstep, hrun⟩
  · rintro ⟨r, hstep, hrun⟩
    exact Run.cons hstep hrun

theorem single {s t : σ} {a : α} (hstep : step s a t) : Run step s [a] t :=
  Run.cons hstep (Run.nil t)

theorem append {s t r : σ} {as bs : List α} (h₁ : Run step s as t) (h₂ : Run step t bs r) :
    Run step s (as ++ bs) r := by
  induction h₁ with
  | nil => exact h₂
  | cons hstep _ ih => exact Run.cons hstep (ih h₂)

/-- Runs split at every point of their label sequence. -/
theorem append_iff {s r : σ} {as bs : List α} :
    Run step s (as ++ bs) r ↔
      ∃ t, Run step s as t ∧ Run step t bs r := by
  constructor
  · intro h
    induction as generalizing s with
    | nil => exact ⟨s, Run.nil s, h⟩
    | cons a as ih =>
      obtain ⟨q, hstep, hrest⟩ := cons_iff.mp h
      obtain ⟨t, h₁, h₂⟩ := ih hrest
      exact ⟨t, Run.cons hstep h₁, h₂⟩
  · rintro ⟨t, h₁, h₂⟩
    exact h₁.append h₂

variable {I : σ → Prop}

theorem preserves (hI : ∀ s a t, step s a t → I s → I t) {s t : σ} {as : List α}
    (h : Run step s as t) (hs : I s) : I t := by
  induction h with
  | nil => exact hs
  | cons hstep _ ih => exact ih (hI _ _ _ hstep hs)

/--
An invariant that is kept by the steps whose labels are admissible is kept by
the runs whose labels all are.
-/
theorem preserves_of_labels {K : α → Prop} (hI : ∀ s a t, step s a t → K a → I s → I t) {s t : σ}
    {as : List α} (h : Run step s as t) (hK : ∀ a, a ∈ as → K a) (hs : I s) : I t := by
  induction h with
  | nil => exact hs
  | cons hstep _ ih =>
    have hhead := hK _ List.mem_cons_self
    refine ih (fun b hb => hK b (List.mem_cons_of_mem _ hb)) ?_
    exact hI _ _ _ hstep hhead hs

theorem exists_entry {Q : σ → Prop} {s t : σ} {as : List α} (h : Run step s as t) (hs : ¬ Q s)
    (ht : Q t) :
    ∃ pre a post p q,
      as = pre ++ a :: post ∧
      Run step s pre p ∧ ¬ Q p ∧ step p a q ∧ Q q ∧ Run step q post t := by
  induction h with
  | nil => exact absurd ht hs
  | @cons s r t a as hstep hrun ih =>
    by_cases hr : Q r
    · exact ⟨[], a, as, s, r, rfl, Run.nil s, hs, hstep, hr, hrun⟩
    · obtain ⟨pre, b, post, p, q, rfl, hpre, hp, hentry, hq, hpost⟩ := ih hr ht
      exact ⟨a :: pre, b, post, p, q, rfl, Run.cons hstep hpre, hp, hentry, hq, hpost⟩

/--
A property that no step from an invariant state enters holds all along a run
that ends with it.
-/
theorem within_of_end {I Q : σ → Prop} (hI : ∀ s a t, step s a t → I s → I t)
    (hQ : ∀ s a t, step s a t → I s → Q t → Q s) {s t : σ} {as : List α} (h : Run step s as t)
    (hs : I s) (ht : Q t) : Q s ∧ Run (fun p a q => Q p ∧ step p a q ∧ Q q) s as t := by
  induction h with
  | nil => exact ⟨ht, Run.nil _⟩
  | cons hstep _ ih =>
    obtain ⟨hr, hrest⟩ := ih (hI _ _ _ hstep hs) ht
    have hfirst := hQ _ _ _ hstep hs hr
    exact ⟨hfirst, Run.cons ⟨hfirst, hstep, hr⟩ hrest⟩

theorem into {step' : σ → α → σ → Prop} {I : σ → Prop}
    (hI : ∀ s a t, step s a t → I s → I t ∧ step' s a t) {s t : σ} {as : List α}
    (h : Run step s as t) (hs : I s) : Run step' s as t := by
  induction h with
  | nil => exact Run.nil _
  | cons hstep _ ih =>
    obtain ⟨ht, hstep'⟩ := hI _ _ _ hstep hs
    exact Run.cons hstep' (ih ht)

theorem forall_labels {Q : α → Prop} (hI : ∀ s a t, step s a t → I s → I t)
    (hQ : ∀ s a t, step s a t → I s → Q a) {s t : σ} {as : List α} (h : Run step s as t)
    (hs : I s) : ∀ a, a ∈ as → Q a := by
  induction h with
  | nil =>
    intro a ha
    cases ha
  | cons hstep _ ih =>
    intro b hb
    rcases List.mem_cons.mp hb with rfl | hb
    · exact hQ _ _ _ hstep hs
    · exact ih (hI _ _ _ hstep hs) b hb

/-- An invariant of the state and of the labels shown so far. -/
theorem history {I : List α → σ → Prop}
    (hI : ∀ past s a t, step s a t → I past s → I (past ++ [a]) t) {s t : σ} {as : List α}
    (h : Run step s as t) (hs : I [] s) : I as t := by
  suffices hall : ∀ past, I past s → I (past ++ as) t from hall [] hs
  clear hs
  induction h with
  | nil =>
    intro past hpast
    simpa using hpast
  | cons hstep _ ih =>
    intro past hpast
    simpa using ih _ (hI _ _ _ _ hstep hpast)

/-- Every unit of label weight that is gained by the potential bounds the weight of a run. -/
theorem gain_le {f : σ → Nat} {w : α → Nat} (hI : ∀ s a t, step s a t → I s → I t)
    (hf : ∀ s a t, step s a t → I s → f s + w a ≤ f t) {s t : σ} {as : List α} (h : Run step s as t)
    (hs : I s) : f s + (as.map w).sum ≤ f t := by
  induction h with
  | nil => simp
  | cons hstep _ ih =>
    have h₁ := hf _ _ _ hstep hs
    have h₂ := ih (hI _ _ _ hstep hs)
    simp only [List.map_cons, List.sum_cons]
    omega

/-- Every unit of label weight that is paid for by the potential bounds the weight of a run. -/
theorem loss_le {f : σ → Nat} {w : α → Nat} (hI : ∀ s a t, step s a t → I s → I t)
    (hf : ∀ s a t, step s a t → I s → f t + w a ≤ f s) {s t : σ} {as : List α} (h : Run step s as t)
    (hs : I s) : f t + (as.map w).sum ≤ f s := by
  induction h with
  | nil => simp
  | cons hstep _ ih =>
    have h₁ := hf _ _ _ hstep hs
    have h₂ := ih (hI _ _ _ hstep hs)
    simp only [List.map_cons, List.sum_cons]
    omega

end Run

/-- The steps that meet a guard on the state before the step and the label. -/
def Guarded (step : σ → α → σ → Prop) (ok : σ → α → Prop) : σ → α → σ → Prop :=
  fun s a t => ok s a ∧ step s a t

/-- A property that holds in every state a run goes through, the two ends included. -/
def Always (step : σ → α → σ → Prop) (P : σ → Prop) (s : σ) (as : List α) : Prop :=
  ∀ pre post t, as = pre ++ post → Run step s pre t → P t

theorem Run.of_guarded {ok : σ → α → Prop} {s t : σ} {as : List α}
    (h : Run (Guarded step ok) s as t) : Run step s as t := by
  induction h with
  | nil => exact Run.nil _
  | cons hstep _ ih => exact Run.cons hstep.2 ih

theorem Run.guarded {ok : σ → α → Prop} {s t : σ} {as : List α} (h : Run step s as t)
    (hok : ∀ a, a ∈ as → ∀ p, ok p a) : Run (Guarded step ok) s as t := by
  induction h with
  | nil => exact Run.nil _
  | cons hstep _ ih =>
    have hhead := hok _ List.mem_cons_self
    exact Run.cons ⟨hhead _, hstep⟩ (ih fun b hb => hok b (List.mem_cons_of_mem _ hb))

/-- A property of a whole run holds of what remains after its first step. -/
theorem Always.tail {P : σ → Prop} {s t : σ} {a : α} {as : List α} (h : Always step P s (a :: as))
    (hstep : step s a t) : Always step P t as := by
  intro pre post r hsplit hpre
  exact h (a :: pre) post r (by simp [hsplit]) (Run.cons hstep hpre)

theorem Always.head {P : σ → Prop} {s : σ} {as : List α} (h : Always step P s as) : P s :=
  h [] as s rfl (Run.nil s)

/--
When, among the invariant states, a guard on the steps of a deterministic
system is exactly what keeps a property of states, a run meets the guard at
every step if and only if the property holds in every state it goes through.
-/
theorem Run.guarded_iff_always {I P : σ → Prop} {ok : σ → α → Prop}
    (hdet : ∀ s a t t', step s a t → step s a t' → t = t') (hI : ∀ s a t, step s a t → I s → I t)
    (hkeep : ∀ s a t, step s a t → I s → P s → ok s a → P t)
    (hbreak : ∀ s a t, step s a t → I s → P s → P t → ok s a) {s t : σ} {as : List α}
    (h : Run step s as t) (hs : I s) (hP : P s) :
    Run (Guarded step ok) s as t ↔ Always step P s as := by
  induction h with
  | nil s =>
    constructor
    · rintro _ pre post r hsplit hpre
      obtain ⟨rfl, rfl⟩ := List.append_eq_nil_iff.mp hsplit.symm
      rw [Run.nil_iff] at hpre
      exact hpre ▸ hP
    · intro _
      exact Run.nil s
  | @cons s q r a as hstep hrun ih =>
    have hIq := hI _ _ _ hstep hs
    constructor
    · intro hguard
      obtain ⟨q', ⟨hok, hstep'⟩, hrest⟩ := Run.cons_iff.mp hguard
      obtain rfl := hdet _ _ _ _ hstep hstep'
      have hPq := hkeep _ _ _ hstep hs hP hok
      have htail := (ih hIq hPq).mp hrest
      intro pre post p hsplit hpre
      cases pre with
      | nil =>
        rw [Run.nil_iff] at hpre
        exact hpre ▸ hP
      | cons b pre =>
        obtain ⟨rfl, rfl⟩ := List.cons.inj hsplit
        obtain ⟨q', hstep', hpre⟩ := Run.cons_iff.mp hpre
        obtain rfl := hdet _ _ _ _ hstep hstep'
        exact htail pre post p rfl hpre
    · intro halways
      have htail := halways.tail hstep
      have hPq := htail.head
      have hok := hbreak _ _ _ hstep hs hP hPq
      exact Run.cons ⟨hok, hstep⟩ ((ih hIq hPq).mpr htail)

end LabelledRuns

/-- A partial step function as a step relation: `none` means the label is not possible. -/
def Fires (step : σ → α → Option σ) : σ → α → σ → Prop :=
  fun s a t => step s a = some t

theorem of_bind_guarded {β : Type v} {found : Option β} {guard : β → Prop} [DecidablePred guard]
    {next : β → σ} {t : σ}
    (h : (found.bind fun b => if guard b then some (next b) else none) = some t) :
    ∃ b, found = some b ∧ guard b ∧ next b = t := by
  obtain ⟨b, hfound, hnext⟩ := Option.bind_eq_some_iff.mp h
  exact ⟨b, hfound, Option.ite_some_none_eq_some.mp hnext⟩

/-- A partial step function has at most one next state for each label. -/
theorem fires_deterministic (step : σ → α → Option σ) (s : σ) (a : α) (t t' : σ)
    (h : Fires step s a t) (h' : Fires step s a t') : t = t' :=
  Option.some.inj (h.symm.trans h')

def fire (step : σ → α → Option σ) (s : σ) :
    List α → Option σ
  | [] => some s
  | a :: as => (step s a).bind fun t => fire step t as

/-- The runs of a partial step function are what firing its labels computes. -/
theorem run_fires_iff {step : σ → α → Option σ} {s t : σ} {as : List α} :
    Run (Fires step) s as t ↔ fire step s as = some t := by
  induction as generalizing s with
  | nil => simp [fire]
  | cons a as ih =>
    rw [Run.cons_iff]
    simp only [fire, Option.bind_eq_some_iff]
    constructor
    · rintro ⟨r, hstep, hrun⟩
      exact ⟨r, hstep, ih.mp hrun⟩
    · rintro ⟨r, hstep, hrun⟩
      exact ⟨r, hstep, ih.mpr hrun⟩

section RequestHandlers

variable {ρ : Type v}
variable {τ : Type v}

/-- A request handler as a step relation: a label is a request with its response. -/
def Answers (handle : σ → ρ → σ × τ) : σ → ρ × τ → σ → Prop :=
  fun s exchange t => handle s exchange.1 = (t, exchange.2)

def serve (handle : σ → ρ → σ × τ) (s : σ) :
    List ρ → σ × List (ρ × τ)
  | [] => (s, [])
  | request :: rest =>
    ((serve handle (handle s request).1 rest).1,
      (request, (handle s request).2) ::
        (serve handle (handle s request).1 rest).2)

theorem serve_run (handle : σ → ρ → σ × τ) (s : σ) (requests : List ρ) :
    Run (Answers handle) s
      (serve handle s requests).2
      (serve handle s requests).1 := by
  induction requests generalizing s with
  | nil => exact Run.nil s
  | cons request rest ih => exact Run.cons rfl (ih _)

end RequestHandlers

end Aiphabee.Transition
