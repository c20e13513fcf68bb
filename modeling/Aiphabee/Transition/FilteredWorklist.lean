import Mathlib.Data.List.Basic

/-!
# Work lists that drop what they have seen

Requests are handled one at a time, in any order; each gives new requests and
results.  A request with a fingerprint that has been seen is dropped, so that a
request counts as handled when another one with its fingerprint has come before
it.  A work list that has been emptied has the results of a request exactly where
nothing on the way to them was dropped for something that does not lead there:
`exists_of_emptied`.
-/

namespace Aiphabee.Worklist

universe u v w

variable {ρ : Type u} {φ : Type v} {ι : Type w}
variable [DecidableEq φ]

section Lists

structure Pending (ρ : Type u) (φ : Type v) where
  seen : List φ
  waiting : List ρ

structure Progress (ρ : Type u) (φ : Type v) (ι : Type w) where
  work : Pending ρ φ
  results : List ι

/-- How the requests of a work list are told apart and handled; a request without a
fingerprint is never dropped. -/
structure Handler (ρ : Type u) (φ : Type v) (ι : Type w) where
  fingerprint : ρ → Option φ
  requests : ρ → List ρ
  results : ρ → List ι

variable (handler : Handler ρ φ ι)

def Pending.enqueue (work : Pending ρ φ) (request : ρ) : Pending ρ φ :=
  match handler.fingerprint request with
  | none => { work with waiting := work.waiting ++ [request] }
  | some key =>
    if key ∈ work.seen then work
    else { seen := work.seen ++ [key], waiting := work.waiting ++ [request] }

def Pending.enqueueAll (work : Pending ρ φ) (requests : List ρ) : Pending ρ φ :=
  requests.foldl (Pending.enqueue handler) work

def Progress.handleAt (progress : Progress ρ φ ι) (place : Nat) : Progress ρ φ ι :=
  match progress.work.waiting[place]? with
  | none => progress
  | some request =>
    { work := Pending.enqueueAll handler
        { progress.work with waiting := progress.work.waiting.eraseIdx place }
        (handler.requests request)
      results := progress.results ++ handler.results request }

def Progress.handleAll (progress : Progress ρ φ ι) (schedule : List Nat) : Progress ρ φ ι :=
  schedule.foldl (Progress.handleAt handler) progress

end Lists

section Leading

variable (handler : Handler ρ φ ι)

inductive ComesUp (start : List ρ) : ρ → Prop
  | start
      {request : ρ}
      (h : request ∈ start) :
      ComesUp start request
  | next
      {request next : ρ}
      (hrequest : ComesUp start request)
      (h : next ∈ handler.requests request) :
      ComesUp start next

/--
A request leads to a result: it gives one, or a request that has not been seen
before, and every request that may come up in the place of that one leads to it.
-/
inductive Leads (work : Pending ρ φ) (wanted : ι → Prop) : ρ → Prop
  | result
      {request : ρ}
      {result : ι}
      (h : result ∈ handler.results request)
      (hwanted : wanted result) :
      Leads work wanted request
  | next
      {request : ρ}
      (next : ρ)
      (h : next ∈ handler.requests request)
      (hnew : ∀ key ∈ handler.fingerprint next, key ∉ work.seen)
      (hleads : Leads work wanted next)
      (hsame : ∀ other, ComesUp handler work.waiting other →
        (handler.fingerprint next).isSome = true →
          handler.fingerprint other = handler.fingerprint next → Leads work wanted other) :
      Leads work wanted request

end Leading

section Emptied

variable {handler : Handler ρ φ ι}
variable {start work : Pending ρ φ}
variable {progress : Progress ρ φ ι}
variable {wanted : ι → Prop}

structure Accounted
    (handler : Handler ρ φ ι)
    (start work : Pending ρ φ)
    (results : List ι)
    (handled : List ρ) : Prop where
  waiting : ∀ request ∈ start.waiting, request ∈ work.waiting ∨ request ∈ handled
  comesUp : ∀ request ∈ work.waiting, ComesUp handler start.waiting request
  /-- What is seen was so before, or is the fingerprint of a request that came up. -/
  seen : ∀ key ∈ work.seen, key ∈ start.seen ∨ ∃ request,
    ComesUp handler start.waiting request ∧ handler.fingerprint request = some key ∧
      (request ∈ work.waiting ∨ request ∈ handled)
  results : ∀ request ∈ handled, ∀ result ∈ handler.results request, result ∈ results

/-- A request that was offered waits, has been handled, or has a fingerprint that is seen. -/
def Offered (handler : Handler ρ φ ι) (work : Pending ρ φ) (handled : List ρ) (request : ρ) :
    Prop :=
  (handler.fingerprint request = none ∧ (request ∈ work.waiting ∨ request ∈ handled)) ∨
    ∃ key ∈ work.seen, handler.fingerprint request = some key

theorem Pending.mem_enqueue_waiting {request other : ρ}
    (h : other ∈ (work.enqueue handler request).waiting) :
    other ∈ work.waiting ∨ other = request := by
  unfold Pending.enqueue at h
  split at h
  · simpa using h
  · split at h
    · exact Or.inl h
    · simpa using h

theorem Pending.waiting_subset_enqueue (request : ρ) :
    ∀ other ∈ work.waiting, other ∈ (work.enqueue handler request).waiting := by
  intro other hother
  unfold Pending.enqueue
  split
  · exact List.mem_append_left _ hother
  · split
    · exact hother
    · exact List.mem_append_left _ hother

theorem Pending.seen_subset_enqueue (request : ρ) :
    ∀ key ∈ work.seen, key ∈ (work.enqueue handler request).seen := by
  intro key hkey
  unfold Pending.enqueue
  split
  · exact hkey
  · split
    · exact hkey
    · exact List.mem_append_left _ hkey

variable {request : ρ}

theorem Pending.mem_enqueue_seen {key : φ} (h : key ∈ (work.enqueue handler request).seen) :
    key ∈ work.seen ∨ (handler.fingerprint request = some key ∧
      request ∈ (work.enqueue handler request).waiting) := by
  unfold Pending.enqueue at h ⊢
  split at h
  · exact Or.inl h
  · next found hfound =>
      by_cases hmem : found ∈ work.seen
      · rw [if_pos hmem] at h
        exact Or.inl h
      · rw [if_neg hmem] at h
        rcases List.mem_append.mp h with hold | hnew
        · exact Or.inl hold
        · obtain rfl := List.mem_singleton.mp hnew
          refine Or.inr ⟨hfound, ?_⟩
          simp [hmem]

theorem Pending.offered_enqueue (handled : List ρ) (request : ρ) :
    Offered handler (work.enqueue handler request) handled request := by
  unfold Offered Pending.enqueue
  split
  · next hnone => exact Or.inl ⟨hnone, Or.inl (by simp)⟩
  · next key hkey =>
      refine Or.inr ⟨key, ?_, hkey⟩
      split
      · next hmem => exact hmem
      · exact List.mem_append_right _ (List.mem_singleton_self key)

variable {handled : List ρ}

theorem Offered.enqueue (h : Offered handler work handled request) (other : ρ) :
    Offered handler (work.enqueue handler other) handled request := by
  rcases h with ⟨hnone, hwaits | hhandled⟩ | ⟨key, hkey, hsame⟩
  · exact Or.inl ⟨hnone, Or.inl (Pending.waiting_subset_enqueue other _ hwaits)⟩
  · exact Or.inl ⟨hnone, Or.inr hhandled⟩
  · exact Or.inr ⟨key, Pending.seen_subset_enqueue other _ hkey, hsame⟩

variable {results : List ι}

theorem Accounted.enqueue (h : Accounted handler start work results handled)
    (hrequest : ComesUp handler start.waiting request) :
    Accounted handler start (work.enqueue handler request) results handled := by
  refine ⟨?_, ?_, ?_, h.results⟩
  · intro other hother
    exact (h.waiting other hother).imp_left (Pending.waiting_subset_enqueue request other)
  · intro other hother
    rcases Pending.mem_enqueue_waiting hother with hold | rfl
    · exact h.comesUp other hold
    · exact hrequest
  · intro key hkey
    rcases Pending.mem_enqueue_seen hkey with hold | ⟨hsame, hwaits⟩
    · rcases h.seen key hold with hbefore | ⟨other, hcomes, hother, hwhere⟩
      · exact Or.inl hbefore
      · exact Or.inr ⟨other, hcomes, hother,
          hwhere.imp_left (Pending.waiting_subset_enqueue request other)⟩
    · exact Or.inr ⟨request, hrequest, hsame, Or.inl hwaits⟩

theorem Accounted.enqueueAll (requests : List ρ) (h : Accounted handler start work results handled)
    (hrequests : ∀ request ∈ requests, ComesUp handler start.waiting request) :
    Accounted handler start (work.enqueueAll handler requests) results handled ∧
      (∀ request, Offered handler work handled request →
        Offered handler (work.enqueueAll handler requests) handled request) ∧
      ∀ request ∈ requests, Offered handler (work.enqueueAll handler requests) handled request := by
  induction requests generalizing work with
  | nil => exact ⟨h, fun _ hoffered => hoffered, fun _ hnone => absurd hnone List.not_mem_nil⟩
  | cons first rest ih =>
    have hfirst := h.enqueue (hrequests first List.mem_cons_self)
    obtain ⟨hall, hkeep, hrest⟩ :=
      ih hfirst fun request hrequest => hrequests request (List.mem_cons_of_mem _ hrequest)
    refine ⟨hall, fun request hoffered => hkeep request (hoffered.enqueue first), ?_⟩
    intro request hrequest
    rcases List.mem_cons.mp hrequest with rfl | hrequest
    · exact hkeep request (Pending.offered_enqueue handled request)
    · exact hrest request hrequest

/-- The requests that the handled ones gave have all been offered. -/
def AllOffered (handler : Handler ρ φ ι) (work : Pending ρ φ) (handled : List ρ) : Prop :=
  ∀ request ∈ handled, ∀ next ∈ handler.requests request, Offered handler work handled next

theorem exists_accounted_handleAt
    (h : Accounted handler start progress.work progress.results handled)
    (hoffered : AllOffered handler progress.work handled) (place : Nat) :
    ∃ handled', Accounted handler start (progress.handleAt handler place).work
        (progress.handleAt handler place).results handled' ∧
      AllOffered handler (progress.handleAt handler place).work handled' := by
  unfold Progress.handleAt
  split
  · exact ⟨handled, h, hoffered⟩
  · next request hrequest =>
      have hmem : request ∈ progress.work.waiting := List.mem_of_getElem? hrequest
      have hcomes := h.comesUp request hmem
      have hstays : ∀ other ∈ progress.work.waiting,
          other ∈ progress.work.waiting.eraseIdx place ∨ other = request := by
        intro other hother
        obtain ⟨index, hindex, rfl⟩ := List.getElem_of_mem hother
        by_cases hsame : index = place
        · subst hsame
          rw [List.getElem?_eq_getElem hindex] at hrequest
          exact Or.inr (Option.some.inj hrequest)
        · refine Or.inl (List.mem_eraseIdx_iff_getElem?.mpr ⟨index, hsame, ?_⟩)
          exact List.getElem?_eq_getElem hindex
      -- The request is no more among those that wait, but among those that have been handled.
      have htaken : Accounted handler start
          { progress.work with waiting := progress.work.waiting.eraseIdx place }
          (progress.results ++ handler.results request) (request :: handled) := by
        have hmove : ∀ other, other ∈ progress.work.waiting ∨ other ∈ handled →
            other ∈ progress.work.waiting.eraseIdx place ∨ other ∈ request :: handled := by
          rintro other (hwaits | hhandled)
          · refine (hstays other hwaits).imp_right ?_
            rintro rfl
            exact List.mem_cons_self
          · exact Or.inr (List.mem_cons_of_mem _ hhandled)
        refine ⟨fun other hother => hmove other (h.waiting other hother), ?_, ?_, ?_⟩
        · exact fun other hother => h.comesUp other (List.mem_of_mem_eraseIdx hother)
        · intro key hkey
          refine (h.seen key hkey).imp_right ?_
          rintro ⟨other, hother, hsame, hwhere⟩
          exact ⟨other, hother, hsame, hmove other hwhere⟩
        · intro other hother result hresult
          rcases List.mem_cons.mp hother with rfl | hother
          · exact List.mem_append_right _ hresult
          · exact List.mem_append_left _ (h.results other hother result hresult)
      obtain ⟨hall, hkeep, hnew⟩ := htaken.enqueueAll (handler.requests request)
        fun next hnext => ComesUp.next hcomes hnext
      refine ⟨request :: handled, hall, ?_⟩
      intro other hother next hnext
      rcases List.mem_cons.mp hother with rfl | hother
      · exact hnew next hnext
      · refine hkeep next ?_
        rcases hoffered other hother next hnext with ⟨hnone, hwaits | hhandled⟩ | hseen
        · refine Or.inl ⟨hnone, (hstays next hwaits).imp_right ?_⟩
          rintro rfl
          exact List.mem_cons_self
        · exact Or.inl ⟨hnone, Or.inr (List.mem_cons_of_mem _ hhandled)⟩
        · exact Or.inr hseen

theorem exists_accounted (schedule : List Nat)
    (h : Accounted handler start progress.work progress.results handled)
    (hoffered : AllOffered handler progress.work handled) :
    ∃ handled', Accounted handler start (progress.handleAll handler schedule).work
        (progress.handleAll handler schedule).results handled' ∧
      AllOffered handler (progress.handleAll handler schedule).work handled' := by
  induction schedule generalizing progress handled with
  | nil => exact ⟨handled, h, hoffered⟩
  | cons place rest ih =>
    obtain ⟨_, hnext, hnextOffered⟩ := exists_accounted_handleAt h hoffered place
    exact ih hnext hnextOffered

omit [DecidableEq φ] in
theorem exists_of_handled (h : Accounted handler start work results handled)
    (hoffered : AllOffered handler work handled) (hempty : work.waiting = [])
    (hleads : Leads handler start wanted request) (hhandled : request ∈ handled) :
    ∃ result ∈ results, wanted result := by
  have hdone : ∀ other, other ∈ work.waiting ∨ other ∈ handled → other ∈ handled := by
    rintro other (hwaits | hother)
    · exact absurd hwaits (hempty ▸ List.not_mem_nil)
    · exact hother
  induction hleads with
  | result hresult hwanted => exact ⟨_, h.results _ hhandled _ hresult, hwanted⟩
  | next _ hnext hnew _ _ ih ihsame =>
    rcases hoffered _ hhandled _ hnext with ⟨-, hwhere⟩ | ⟨key, hkey, hsame⟩
    · exact ih (hdone _ hwhere)
    · -- Another request with the fingerprint may have come before.
      rcases h.seen key hkey with hbefore | ⟨other, hcomes, hother, hwhere⟩
      · exact absurd hbefore (hnew key hsame)
      · refine ihsame other hcomes ?_ (hother.trans hsame.symm) (hdone other hwhere)
        rw [hsame]
        rfl

theorem exists_of_emptied (schedule : List Nat) (results : List ι)
    (hleads : Leads handler start wanted request) (hrequest : request ∈ start.waiting)
    (hempty : (Progress.handleAll handler ⟨start, results⟩ schedule).work.waiting = []) :
    ∃ result ∈ (Progress.handleAll handler ⟨start, results⟩ schedule).results, wanted result := by
  have hstart : Accounted handler start start results [] :=
    ⟨fun _ h => Or.inl h, fun _ h => ComesUp.start h, fun _ h => Or.inl h,
      fun _ h => absurd h List.not_mem_nil⟩
  have hnone : AllOffered handler start [] := fun _ h => absurd h List.not_mem_nil
  obtain ⟨handled, haccounted, hoffered⟩ :
      ∃ handled, Accounted handler start
          (Progress.handleAll handler ⟨start, results⟩ schedule).work
          (Progress.handleAll handler ⟨start, results⟩ schedule).results handled ∧
        AllOffered handler (Progress.handleAll handler ⟨start, results⟩ schedule).work handled :=
    exists_accounted schedule hstart hnone
  have hhandled : request ∈ handled := by
    rcases haccounted.waiting request hrequest with hwaits | hhandled
    · exact absurd hwaits (hempty ▸ List.not_mem_nil)
    · exact hhandled
  exact exists_of_handled haccounted hoffered hempty hleads hhandled

end Emptied

end Aiphabee.Worklist
