import Aiphabee.Text.JoinedFields
import Aiphabee.Text.NumberText
import Aiphabee.Transition.LabelledRuns

/-!
# The cache of ephemeral bars

Bars that a public provider delivers are kept in memory for a day, under the
fields of their key joined with colons.  A lookup drops an entry that has
expired.  A fetch through the cache looks its key up first; when that misses, it
asks the provider and stores what it gets at the time when it began.

The cache serves tenants, users and sessions side by side: a run is any sequence
of stores, lookups and fetches, with the fetches finishing in any order.
-/

namespace Aiphabee.EphemeralCache

open Transition

variable {β : Type}

inductive EphemeralOhlcvMarket
  | us
  | hk
  | cn
deriving DecidableEq

def EphemeralOhlcvMarket.text : EphemeralOhlcvMarket → String
  | .us => "US"
  | .hk => "HK"
  | .cn => "CN"

inductive EphemeralOhlcvTimeframe
  | minutes15
  | minutes30
  | minutes60
  | day
  | week
  | month
deriving DecidableEq

def EphemeralOhlcvTimeframe.text : EphemeralOhlcvTimeframe → String
  | .minutes15 => "15m"
  | .minutes30 => "30m"
  | .minutes60 => "60m"
  | .day => "1d"
  | .week => "1w"
  | .month => "1mo"

inductive EphemeralOhlcvAdjust
  | none
  | qfq
  | hfq
deriving DecidableEq

def EphemeralOhlcvAdjust.text : EphemeralOhlcvAdjust → String
  | .none => "none"
  | .qfq => "qfq"
  | .hfq => "hfq"

structure EphemeralOhlcvCacheKey where
  adjust : EphemeralOhlcvAdjust
  lookbackBars : JsNumber
  market : EphemeralOhlcvMarket
  providerVersion : String
  sessionId : String
  symbol : String
  tenantId : String
  timeframe : EphemeralOhlcvTimeframe
  userId : String
deriving DecidableEq

def EphemeralOhlcvCacheKey.fields (key : EphemeralOhlcvCacheKey) : List String :=
  [key.tenantId, key.userId, key.sessionId, key.market.text, key.symbol, key.timeframe.text,
    key.lookbackBars.toText, key.adjust.text, key.providerVersion]

def serializeEphemeralOhlcvCacheKey (key : EphemeralOhlcvCacheKey) : String :=
  (String.ofList [':']).intercalate key.fields

def EphemeralOhlcvCacheKey.pieces (key : EphemeralOhlcvCacheKey) : List (List Char) :=
  JoinedFields.pieces ':' (key.fields.map String.toList)

theorem serialize_eq_iff {first second : EphemeralOhlcvCacheKey} :
    serializeEphemeralOhlcvCacheKey first = serializeEphemeralOhlcvCacheKey second ↔
      first.pieces = second.pieces :=
  JoinedFields.intercalate_texts_eq_iff (List.cons_ne_nil _ _) (List.cons_ne_nil _ _)

section Cache

inductive NormalizeStatus
  | ok
  | unavailable
  | invalid
deriving DecidableEq

structure EphemeralProviderNormalizeResult (β : Type) where
  status : NormalizeStatus
  content : β

structure CacheEntry (β : Type) where
  expiresAtMs : JsNumber
  result : EphemeralProviderNormalizeResult β
  storedFor : EphemeralOhlcvCacheKey

abbrev Entries (β : Type) := String → Option (CacheEntry β)

/-- A day in milliseconds. -/
def ephemeralOhlcvCacheTtlMs : JsNumber := .finite 86400000

def get (entries : Entries β) (key : EphemeralOhlcvCacheKey) (nowMs : JsNumber) :
    Option (CacheEntry β) × Entries β :=
  match entries (serializeEphemeralOhlcvCacheKey key) with
  | none => (none, entries)
  | some entry =>
    if JsNumber.le entry.expiresAtMs nowMs then
      (none, Function.update entries (serializeEphemeralOhlcvCacheKey key) none)
    else
      (some entry, entries)

def set (entries : Entries β) (key : EphemeralOhlcvCacheKey)
    (result : EphemeralProviderNormalizeResult β) (nowMs : JsNumber) : Entries β :=
  if result.status = .ok then
    Function.update entries (serializeEphemeralOhlcvCacheKey key)
      (some
        { expiresAtMs := nowMs.add ephemeralOhlcvCacheTtlMs
          result := result
          storedFor := key })
  else
    entries

/-- A value that the cache returned, with the key and the time of the lookup. -/
structure Answer (β : Type) where
  key : EphemeralOhlcvCacheKey
  nowMs : JsNumber
  entry : CacheEntry β

/-- The cache, the time, the fetches that wait for the provider, and what was returned. -/
structure CacheState (β : Type) where
  entries : Entries β
  clock : JsNumber
  fetching : List (EphemeralOhlcvCacheKey × JsNumber)
  answers : List (Answer β)

def initial (β : Type) : CacheState β :=
  { entries := fun _ => none
    clock := .infinity true
    fetching := []
    answers := [] }

inductive CacheAction (β : Type)
  | get (key : EphemeralOhlcvCacheKey) (nowMs : JsNumber)
  | set
      (key : EphemeralOhlcvCacheKey)
      (result : EphemeralProviderNormalizeResult β)
      (nowMs : JsNumber)
  | beginFetch (key : EphemeralOhlcvCacheKey) (nowMs : JsNumber)
  | finishFetch (index : Nat) (result : EphemeralProviderNormalizeResult β)
  | failFetch (index : Nat)

variable (s : CacheState β)

/-- A lookup at a time: what it returns is noted. -/
def CacheState.lookUp (key : EphemeralOhlcvCacheKey) (nowMs : JsNumber) :
    Option (CacheEntry β) × CacheState β :=
  let (found, entries) := get s.entries key nowMs
  (found,
    { s with
      entries := entries
      clock := nowMs
      answers := s.answers ++ (found.map fun entry => ⟨key, nowMs, entry⟩).toList })

/-- `getCachedOrFetchEphemeralBars` up to its request to the provider. -/
def CacheState.beginFetch (key : EphemeralOhlcvCacheKey) (nowMs : JsNumber) : CacheState β :=
  match s.lookUp key nowMs with
  | (some _, t) => t
  | (none, t) => { t with fetching := t.fetching ++ [(key, nowMs)] }

/-- `getCachedOrFetchEphemeralBars` from the answer of the provider on. -/
def CacheState.finishFetch (index : Nat) (result : EphemeralProviderNormalizeResult β) :
    Option (CacheState β) :=
  (s.fetching[index]?).map fun (key, nowMs) =>
    { s with
      entries := set s.entries key result nowMs
      fetching := s.fetching.eraseIdx index }

/-- The times of the operations do not decrease. -/
def step : CacheAction β → Option (CacheState β)
  | .get key nowMs => if JsNumber.le s.clock nowMs then some (s.lookUp key nowMs).2 else none
  | .set key result nowMs =>
    if JsNumber.le s.clock nowMs then
      some { s with entries := set s.entries key result nowMs, clock := nowMs }
    else
      none
  | .beginFetch key nowMs =>
    if JsNumber.le s.clock nowMs then some (s.beginFetch key nowMs) else none
  | .finishFetch index result => s.finishFetch index result
  | .failFetch index =>
    if index < s.fetching.length then
      some { s with fetching := s.fetching.eraseIdx index }
    else
      none

end Cache

section Invariant

/-- A value is returned under the text it was stored under, before it expires. -/
def Answer.Sound (answer : Answer β) : Prop :=
  serializeEphemeralOhlcvCacheKey answer.entry.storedFor =
      serializeEphemeralOhlcvCacheKey answer.key ∧
    JsNumber.lt answer.nowMs answer.entry.expiresAtMs = true

def Kept (entries : Entries β) : Prop :=
  ∀ text entry, entries text = some entry →
    serializeEphemeralOhlcvCacheKey entry.storedFor = text ∧ entry.expiresAtMs ≠ .nan

structure CacheInvariant (s : CacheState β) : Prop where
  kept : Kept s.entries
  fetching : ∀ fetch ∈ s.fetching, fetch.2 ≠ .nan
  answers : ∀ answer ∈ s.answers, answer.Sound

theorem invariant_initial :
    CacheInvariant (initial β) :=
  { kept := fun _ _ h => by cases h
    fetching := fun _ h => by cases h
    answers := fun _ h => by cases h }

theorem ne_nan_of_le {a b : JsNumber} (h : JsNumber.le a b = true) : b ≠ .nan := by
  rintro rfl
  cases a <;> cases h

variable {nowMs : JsNumber}

/-- A time a day later is a number again. -/
theorem add_ttl_ne_nan (h : nowMs ≠ .nan) : nowMs.add ephemeralOhlcvCacheTtlMs ≠ .nan := by
  cases nowMs with
  | nan => exact absurd rfl h
  | infinity negative => simp [JsNumber.add, ephemeralOhlcvCacheTtlMs]
  | finite value => exact JsNumber.nearest_ne_nan _

theorem Kept.set {entries : Entries β} (h : Kept entries) (key : EphemeralOhlcvCacheKey)
    (result : EphemeralProviderNormalizeResult β) (hnow : nowMs ≠ .nan) :
    Kept (set entries key result nowMs) := by
  intro text entry hentry
  rw [EphemeralCache.set] at hentry
  split at hentry
  · rw [Function.update_apply] at hentry
    split at hentry
    · next htext =>
        obtain rfl := Option.some.inj hentry
        exact ⟨htext.symm, add_ttl_ne_nan hnow⟩
    · exact h text entry hentry
  · exact h text entry hentry

/-- A lookup keeps the entries in place, and finds one that has not expired. -/
theorem Kept.get {entries : Entries β} (h : Kept entries) (key : EphemeralOhlcvCacheKey)
    (hnow : nowMs ≠ .nan) :
    Kept (get entries key nowMs).2 ∧
      ∀ entry, (get entries key nowMs).1 = some entry →
        Answer.Sound ⟨key, nowMs, entry⟩ := by
  cases hfound : entries (serializeEphemeralOhlcvCacheKey key) with
  | none =>
    simp only [EphemeralCache.get, hfound]
    exact ⟨h, fun _ hentry => by cases hentry⟩
  | some entry =>
    obtain ⟨htext, hexpiry⟩ := h _ _ hfound
    simp only [EphemeralCache.get, hfound]
    split
    · refine ⟨?_, fun _ hentry => by cases hentry⟩
      intro text other hother
      dsimp only at hother
      rw [Function.update_apply] at hother
      split at hother
      · cases hother
      · exact h text other hother
    · next hle =>
        refine ⟨h, ?_⟩
        rintro _ ⟨⟩
        exact ⟨htext, JsNumber.lt_of_not_le hexpiry hnow (Bool.not_eq_true _ ▸ hle)⟩

theorem CacheInvariant.lookUp {s : CacheState β} (h : CacheInvariant s)
    (key : EphemeralOhlcvCacheKey) (hnow : nowMs ≠ .nan) :
    CacheInvariant (s.lookUp key nowMs).2 := by
  obtain ⟨hkept, hsound⟩ := h.kept.get key hnow
  refine { kept := hkept, fetching := h.fetching, answers := ?_ }
  intro answer hanswer
  rcases List.mem_append.mp hanswer with hold | hnew
  · exact h.answers answer hold
  · obtain ⟨entry, hentry, rfl⟩ := Option.map_eq_some_iff.mp (Option.mem_toList.mp hnew)
    exact hsound entry hentry

theorem CacheInvariant.step {s t : CacheState β} {action : CacheAction β}
    (hstep : EphemeralCache.step s action = some t) (h : CacheInvariant s) : CacheInvariant t := by
  cases action with
  | get key nowMs =>
    obtain ⟨hclock, hnext⟩ := Option.ite_none_right_eq_some.mp hstep
    cases hnext
    exact h.lookUp key (ne_nan_of_le hclock)
  | set key result nowMs =>
    obtain ⟨hclock, hnext⟩ := Option.ite_none_right_eq_some.mp hstep
    cases hnext
    exact
      { kept := h.kept.set key result (ne_nan_of_le hclock)
        fetching := h.fetching
        answers := h.answers }
  | beginFetch key nowMs =>
    obtain ⟨hclock, hnext⟩ := Option.ite_none_right_eq_some.mp hstep
    cases hnext
    have hlook := h.lookUp key (ne_nan_of_le hclock)
    rw [CacheState.beginFetch]
    cases hfound : s.lookUp key nowMs with
    | mk found t =>
      rw [hfound] at hlook
      cases found with
      | some entry => exact hlook
      | none =>
        refine { kept := hlook.kept, fetching := ?_, answers := hlook.answers }
        intro fetch hfetch
        rcases List.mem_append.mp hfetch with hold | hnew
        · exact hlook.fetching fetch hold
        · rw [List.mem_singleton.mp hnew]
          exact ne_nan_of_le hclock
  | finishFetch index result =>
    obtain ⟨⟨key, nowMs⟩, hfetch, rfl⟩ := Option.map_eq_some_iff.mp hstep
    have hnow := h.fetching _ (List.mem_of_getElem? hfetch)
    exact
      { kept := h.kept.set key result hnow
        fetching := fun fetch hmem => h.fetching fetch (List.mem_of_mem_eraseIdx hmem)
        answers := h.answers }
  | failFetch index =>
    obtain ⟨_, hnext⟩ := Option.ite_none_right_eq_some.mp hstep
    cases hnext
    exact
      { kept := h.kept
        fetching := fun fetch hmem => h.fetching fetch (List.mem_of_mem_eraseIdx hmem)
        answers := h.answers }

/-- In every run every value is returned under the text it was stored under, and in time. -/
theorem answers_sound {actions : List (CacheAction β)} {s : CacheState β}
    (h : Run (Fires step) (initial β) actions s) : ∀ answer ∈ s.answers, answer.Sound :=
  (h.preserves (fun _ _ _ hstep hinv => CacheInvariant.step hstep hinv) invariant_initial).answers

end Invariant

section Isolation

/-- In no run a value that was stored under one key is returned for another one. -/
def Isolated (β : Type) (first second : EphemeralOhlcvCacheKey) : Prop :=
  ∀ actions s, Run (Fires step) (initial β) actions s →
    ∀ answer ∈ s.answers,
      answer.entry.storedFor = first → answer.key = second → first = second

theorem le_expiry_zero :
    JsNumber.le ((JsNumber.finite 0).add ephemeralOhlcvCacheTtlMs) (.finite 0) = false := by
  decide +kernel

variable {first second : EphemeralOhlcvCacheKey}

theorem get_set_of_text
    (htext : serializeEphemeralOhlcvCacheKey first = serializeEphemeralOhlcvCacheKey second)
    (content : β) :
    (get (set (fun _ => none) first ⟨.ok, content⟩ (.finite 0)) second (.finite 0)).1 =
      some ⟨(JsNumber.finite 0).add ephemeralOhlcvCacheTtlMs, ⟨.ok, content⟩, first⟩ := by
  simp only [get, set, if_true, ← htext, Function.update_self, le_expiry_zero, Bool.false_eq_true,
    if_false]

theorem answers_lookUp (s : CacheState β) (key : EphemeralOhlcvCacheKey) (nowMs : JsNumber) :
    (s.lookUp key nowMs).2.answers =
      s.answers ++ ((get s.entries key nowMs).1.map fun entry => ⟨key, nowMs, entry⟩).toList :=
  rfl

theorem Isolated.eq_of_pieces (h : Isolated β first second) (content : β)
    (hpieces : first.pieces = second.pieces) : first = second := by
  have hfound := get_set_of_text (serialize_eq_iff.mpr hpieces) content
  let stored : CacheState β :=
    { initial β with
      entries := set (fun _ => none) first ⟨.ok, content⟩ (.finite 0)
      clock := .finite 0 }
  have hzero : JsNumber.le (.finite 0) (.finite 0) = true := by decide
  have hset : step (initial β) (.set first ⟨.ok, content⟩ (.finite 0)) = some stored := by
    rw [step, if_pos (show JsNumber.le (initial β).clock (.finite 0) = true from rfl)]
    rfl
  have hlook : step stored (.get second (.finite 0)) =
      some (stored.lookUp second (.finite 0)).2 := by
    rw [step, if_pos (show JsNumber.le stored.clock (.finite 0) = true from hzero)]
  let answer : Answer β :=
    ⟨second, .finite 0,
      ⟨(JsNumber.finite 0).add ephemeralOhlcvCacheTtlMs, ⟨.ok, content⟩, first⟩⟩
  have hanswer : answer ∈ (stored.lookUp second (.finite 0)).2.answers := by
    rw [answers_lookUp, hfound]
    exact List.mem_append_right _ (List.mem_singleton.mpr rfl)
  exact h _ _ (Run.cons hset (Run.single hlook)) answer hanswer rfl rfl

/--
No value is returned after its expiry.  Two keys are isolated exactly when they
are one or have different pieces between colons.
-/
theorem cache_isolation (content : β) :
    (∀ actions s, Run (Fires step) (initial β) actions s →
        ∀ answer ∈ s.answers,
          JsNumber.lt answer.nowMs answer.entry.expiresAtMs = true) ∧
      ∀ first second : EphemeralOhlcvCacheKey,
        Isolated β first second ↔ first = second ∨ first.pieces ≠ second.pieces := by
  refine ⟨fun actions s hrun answer hanswer => (answers_sound hrun answer hanswer).2, ?_⟩
  intro first second
  constructor
  · intro hisolated
    by_cases hpieces : first.pieces = second.pieces
    · exact Or.inl (hisolated.eq_of_pieces content hpieces)
    · exact Or.inr hpieces
  · rintro (hsame | hpieces) actions s hrun answer hanswer hfirst hsecond
    · exact hsame
    · have htext := (answers_sound hrun answer hanswer).1
      rw [hfirst, hsecond] at htext
      exact absurd (serialize_eq_iff.mp htext) hpieces

def keyOf (tenantId userId sessionId : String) : EphemeralOhlcvCacheKey :=
  { adjust := .none
    lookbackBars := .finite 120
    market := .hk
    providerVersion := "stock-sdk-public-bars-v0"
    sessionId := sessionId
    symbol := "00700.HK"
    tenantId := tenantId
    timeframe := .day
    userId := userId }

/-- A colon moves a user of one tenant to another tenant. -/
theorem cache_shared_across_tenants :
    ¬Isolated Unit (keyOf "tenant_a" "team:user_b" "s1") (keyOf "tenant_a:team" "user_b" "s1") := by
  intro h
  have hsame := h.eq_of_pieces () (by decide +kernel)
  revert hsame
  decide

end Isolation

end Aiphabee.EphemeralCache
