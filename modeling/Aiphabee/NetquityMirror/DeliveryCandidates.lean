import Aiphabee.Store.InsertionMap
import Aiphabee.Text.Collation
import Aiphabee.Text.JsText

/-!
# Candidates of a delivery

A drop may hold several databases of one schema, as raw files and inside of archives.
Those with the same content are duplicates, of which one is taken; those with different
contents refuse the drop.

The main result, `dedupCandidates_spec_iff`, says when the choice is the same in every
order of the candidates.
-/

namespace Aiphabee.DeliveryCandidates

inductive SourceKind
  | mdb
  | zip

structure Candidate where
  absPath : JsText
  schemaName : JsText
  sourceKind : SourceKind
  sourceLabel : JsText

/-- The files, the digest of a content, and how `localeCompare` compares two texts. -/
structure Platform extends Collation JsText where
  contents : JsText → List UInt8
  digest : List UInt8 → JsText
  digest_injective : ∀ a b, digest a = digest b → a = b

variable (platform : Platform)

def sha256File (path : JsText) : JsText :=
  platform.digest (platform.contents path)

def rank (candidate : Candidate) : Int :=
  match candidate.sourceKind with
  | .mdb => 0
  | .zip => 1

def compareCandidates (a b : Candidate) : Int :=
  let rankDiff := rank a - rank b
  if rankDiff ≠ 0 then rankDiff else platform.localeCompare a.sourceLabel b.sourceLabel

/-- What the failure names: the schema, and the label and the digest of both candidates. -/
structure Conflict where
  schemaName : JsText
  existing : JsText × JsText
  candidate : JsText × JsText

/-- One pass of the loop. -/
def place (bySchema : List (JsText × Candidate)) (candidate : Candidate) :
    Except Conflict (List (JsText × Candidate)) :=
  match InsertionMap.get bySchema candidate.schemaName with
  | none => .ok (InsertionMap.set bySchema (candidate.schemaName, candidate))
  | some existing =>
    let existingDigest := sha256File platform existing.absPath
    let candidateDigest := sha256File platform candidate.absPath
    if existingDigest ≠ candidateDigest then
      .error {
        schemaName := candidate.schemaName
        existing := (existing.sourceLabel, existingDigest)
        candidate := (candidate.sourceLabel, candidateDigest) }
    else
      let existingWins := compareCandidates platform existing candidate ≤ 0
      .ok (InsertionMap.set bySchema
        (candidate.schemaName, if existingWins then existing else candidate))

variable (candidates : List Candidate)

def dedupCandidates :
    Except Conflict (List (JsText × Candidate)) :=
  candidates.foldlM (place platform) []

def chosen : Option (JsText → Option Candidate) :=
  (dedupCandidates platform candidates).toOption.map InsertionMap.get

def Conflicting : Prop :=
  ∃ a ∈ candidates, ∃ b ∈ candidates, a.schemaName = b.schemaName ∧
    platform.contents a.absPath ≠ platform.contents b.absPath

def IsLeast (a : Candidate) : Prop :=
  a ∈ candidates ∧ ∀ b ∈ candidates, b.schemaName = a.schemaName →
    compareCandidates platform a b ≤ 0

def Chooses (seen : List Candidate) (bySchema : List (JsText × Candidate)) : Prop :=
  ∀ schemaName,
    (∀ a ∈ InsertionMap.get bySchema schemaName, a.schemaName = schemaName ∧
      IsLeast platform seen a ∧ ∀ b ∈ seen, b.schemaName = schemaName →
        platform.contents a.absPath = platform.contents b.absPath) ∧
    (InsertionMap.get bySchema schemaName = none → ∀ a ∈ seen, a.schemaName ≠ schemaName)

variable {platform} {candidates others seen : List Candidate} {a b c : Candidate}
  {bySchema next : List (JsText × Candidate)}

theorem compareCandidates_self (a : Candidate) : compareCandidates platform a a ≤ 0 := by
  have hswap := platform.localeCompare_swap a.sourceLabel a.sourceLabel
  simp only [compareCandidates]
  omega

theorem compareCandidates_trans (hab : compareCandidates platform a b ≤ 0)
    (hbc : compareCandidates platform b c ≤ 0) : compareCandidates platform a c ≤ 0 := by
  have htrans := platform.localeCompare_trans a.sourceLabel b.sourceLabel c.sourceLabel
  simp only [compareCandidates] at hab hbc ⊢
  split_ifs at hab hbc ⊢ <;> omega

theorem compareCandidates_total (h : ¬compareCandidates platform a b ≤ 0) :
    compareCandidates platform b a ≤ 0 := by
  have hswap := platform.localeCompare_swap b.sourceLabel a.sourceLabel
  simp only [compareCandidates] at h ⊢
  split_ifs at h ⊢ <;> omega

/-- A pass fails only for a content that differs from that of the chosen candidate. -/
theorem place_error (hseen : Chooses platform seen bySchema) {conflict : Conflict}
    (h : place platform bySchema c = .error conflict) : Conflicting platform (seen ++ [c]) := by
  unfold place at h
  split at h
  next => cases h
  next existing hexisting =>
    dsimp only at h
    split at h
    next hdigest =>
      obtain ⟨hschema, hleast, -⟩ := (hseen _).1 existing hexisting
      exact ⟨existing, by simp [hleast.1], c, by simp, hschema, fun hsame =>
        hdigest (congrArg platform.digest hsame)⟩
    next => cases h

/-- The candidate that a pass leaves, which is the least of the ones so far. -/
theorem Chooses.set (hseen : Chooses platform seen bySchema) (hname : a.schemaName = c.schemaName)
    (hmem : a ∈ seen ++ [c])
    (hbefore : ∀ b ∈ seen, b.schemaName = c.schemaName → compareCandidates platform a b ≤ 0 ∧
      platform.contents a.absPath = platform.contents b.absPath)
    (hlast : compareCandidates platform a c ≤ 0 ∧
      platform.contents a.absPath = platform.contents c.absPath) :
    Chooses platform (seen ++ [c]) (InsertionMap.set bySchema (c.schemaName, a)) := by
  have hall : ∀ b ∈ seen ++ [c], b.schemaName = c.schemaName →
      compareCandidates platform a b ≤ 0 ∧
        platform.contents a.absPath = platform.contents b.absPath := by
    intro b hb hsame
    rcases List.mem_append.mp hb with hb | hb
    · exact hbefore b hb hsame
    · exact List.mem_singleton.mp hb ▸ hlast
  intro schemaName
  rw [InsertionMap.get_set]
  by_cases hschema : c.schemaName = schemaName
  · subst hschema
    rw [if_pos rfl]
    refine ⟨?_, fun h => (nomatch h)⟩
    rintro _ ⟨⟩
    exact ⟨hname, ⟨hmem, fun b hb hsame => (hall b hb (hsame.trans hname)).1⟩,
      fun b hb hsame => (hall b hb hsame).2⟩
  · rw [if_neg hschema]
    obtain ⟨hsome, hnone⟩ := hseen schemaName
    constructor
    · intro b hb
      obtain ⟨hown, hleast, hcontents⟩ := hsome b hb
      refine ⟨hown, ⟨List.mem_append_left _ hleast.1, fun d hd hsame => ?_⟩, fun d hd hsame => ?_⟩
      · rcases List.mem_append.mp hd with hd | hd
        · exact hleast.2 d hd hsame
        · rw [List.mem_singleton.mp hd, hown] at hsame
          exact absurd hsame hschema
      · rcases List.mem_append.mp hd with hd | hd
        · exact hcontents d hd hsame
        · rw [List.mem_singleton.mp hd] at hsame
          exact absurd hsame hschema
    · intro h b hb
      rcases List.mem_append.mp hb with hb | hb
      · exact hnone h b hb
      · exact List.mem_singleton.mp hb ▸ hschema

/-- A pass that succeeds takes the candidate into account. -/
theorem place_ok (hseen : Chooses platform seen bySchema)
    (h : place platform bySchema c = .ok next) : Chooses platform (seen ++ [c]) next := by
  unfold place at h
  split at h
  next hnone =>
    cases h
    exact hseen.set rfl (by simp)
      (fun b hb hsame => absurd hsame ((hseen c.schemaName).2 hnone b hb))
      ⟨compareCandidates_self c, rfl⟩
  next existing hexisting =>
    dsimp only at h
    split at h
    next => cases h
    next hdigest =>
      cases h
      obtain ⟨hname, hleast, hcontents⟩ := (hseen _).1 existing hexisting
      have hsame := platform.digest_injective _ _ (not_not.mp hdigest)
      by_cases hwins : compareCandidates platform existing c ≤ 0
      · rw [if_pos hwins]
        exact hseen.set hname (List.mem_append_left _ hleast.1)
          (fun b hb hb' => ⟨hleast.2 b hb (hb'.trans hname.symm), hcontents b hb hb'⟩)
          ⟨hwins, hsame⟩
      · rw [if_neg hwins]
        exact hseen.set rfl (by simp)
          (fun b hb hb' => ⟨compareCandidates_trans (compareCandidates_total hwins)
            (hleast.2 b hb (hb'.trans hname.symm)), hsame.symm.trans (hcontents b hb hb')⟩)
          ⟨compareCandidates_self c, rfl⟩

theorem foldlM_place (hseen : Chooses platform seen bySchema) (rest : List Candidate) :
    (∀ result, rest.foldlM (place platform) bySchema = .ok result →
        Chooses platform (seen ++ rest) result) ∧
      ∀ conflict, rest.foldlM (place platform) bySchema = .error conflict →
        Conflicting platform (seen ++ rest) := by
  induction rest generalizing seen bySchema with
  | nil => exact ⟨fun _ h => by cases h; simpa using hseen, fun _ h => (nomatch h)⟩
  | cons c rest ih =>
    rw [List.foldlM_cons]
    cases hplace : place platform bySchema c with
    | error conflict =>
      refine ⟨fun _ h => (nomatch h), fun _ _ => ?_⟩
      obtain ⟨a, ha, b, hb, hab⟩ := place_error hseen hplace
      have hsub : ∀ d ∈ seen ++ [c], d ∈ seen ++ c :: rest := by simp; tauto
      exact ⟨a, hsub a ha, b, hsub b hb, hab⟩
    | ok next =>
      have hrest := ih (place_ok hseen hplace)
      rw [List.append_assoc] at hrest
      exact hrest

theorem chooses_nil : Chooses platform [] [] :=
  fun _ => ⟨fun _ h => (nomatch h), fun _ _ h => (nomatch h)⟩

variable {result : List (JsText × Candidate)}

theorem dedupCandidates_ok (h : dedupCandidates platform candidates = .ok result) :
    Chooses platform candidates result :=
  (foldlM_place chooses_nil candidates).1 result h

/-- The candidates are refused exactly if two of one schema have different contents. -/
theorem dedupCandidates_fails_iff :
    (∃ conflict, dedupCandidates platform candidates = .error conflict) ↔
      Conflicting platform candidates := by
  constructor
  · rintro ⟨conflict, h⟩
    exact (foldlM_place chooses_nil candidates).2 conflict h
  · rintro ⟨a, ha, b, hb, hschema, hdiffer⟩
    cases hresult : dedupCandidates platform candidates with
    | error conflict => exact ⟨conflict, rfl⟩
    | ok result =>
      obtain ⟨hsome, hnone⟩ := dedupCandidates_ok hresult a.schemaName
      cases hget : InsertionMap.get result a.schemaName with
      | none => exact absurd rfl (hnone hget a ha)
      | some c =>
        obtain ⟨-, -, hcontents⟩ := hsome c hget
        exact absurd ((hcontents a ha rfl).symm.trans (hcontents b hb hschema.symm)) hdiffer

theorem foldlM_place_first {rest : List Candidate}
    (hget : InsertionMap.get bySchema a.schemaName = some a)
    (hleast : ∀ b ∈ rest, b.schemaName = a.schemaName → compareCandidates platform a b ≤ 0)
    (h : rest.foldlM (place platform) bySchema = .ok result) :
    InsertionMap.get result a.schemaName = some a := by
  induction rest generalizing bySchema with
  | nil =>
    cases h
    exact hget
  | cons c rest ih =>
    rw [List.foldlM_cons] at h
    cases hplace : place platform bySchema c with
    | error conflict =>
      rw [hplace] at h
      cases h
    | ok next =>
      rw [hplace] at h
      refine ih ?_ (fun b hb => hleast b (List.mem_cons_of_mem c hb)) h
      by_cases hschema : c.schemaName = a.schemaName
      · have hwins := hleast c List.mem_cons_self hschema
        simp only [place, hschema, hget] at hplace
        split at hplace
        · cases hplace
        · cases hplace
          rw [InsertionMap.get_set, if_pos rfl]
      · unfold place at hplace
        split at hplace
        · cases hplace
          rw [InsertionMap.get_set, if_neg hschema, hget]
        · dsimp only at hplace
          split at hplace
          · cases hplace
          · cases hplace
            rw [InsertionMap.get_set, if_neg hschema, hget]

theorem chosen_first (hfirst : IsLeast platform candidates a)
    (hperm : candidates.Perm (a :: others))
    (h : dedupCandidates platform (a :: others) = .ok result) :
    InsertionMap.get result a.schemaName = some a := by
  rw [dedupCandidates, List.foldlM_cons] at h
  have hplace : place platform [] a = .ok (InsertionMap.set [] (a.schemaName, a)) := rfl
  rw [hplace] at h
  exact foldlM_place_first (by rw [InsertionMap.get_set, if_pos rfl])
    (fun b hb => hfirst.2 b (hperm.mem_iff.mpr (List.mem_cons_of_mem a hb))) h

/-- The failure and the choice are as they should be and the same in every order, exactly
if the drop is refused or no two candidates of a schema tie for the least one. -/
theorem dedupCandidates_spec_iff (platform : Platform) (candidates : List Candidate) :
    (((∃ conflict, dedupCandidates platform candidates = .error conflict) ↔
        Conflicting platform candidates) ∧
      (∀ choice ∈ chosen platform candidates, ∀ schemaName,
        (∀ a ∈ choice schemaName, a.schemaName = schemaName ∧ IsLeast platform candidates a) ∧
          (choice schemaName = none → ∀ a ∈ candidates, a.schemaName ≠ schemaName)) ∧
      ∀ others, candidates.Perm others →
        chosen platform others = chosen platform candidates) ↔
      Conflicting platform candidates ∨ ∀ a b, IsLeast platform candidates a →
        IsLeast platform candidates b → a.schemaName = b.schemaName → a = b := by
  constructor
  · rintro ⟨-, -, hperm⟩
    refine or_iff_not_imp_left.mpr fun hagree a b ha hb hschema => ?_
    have hfirst : ∀ d, IsLeast platform candidates d →
        ∃ choice ∈ chosen platform candidates, choice d.schemaName = some d := by
      intro d hd
      obtain ⟨before, after, hsplit⟩ := List.append_of_mem hd.1
      have horder : candidates.Perm (d :: (before ++ after)) := hsplit ▸ List.perm_middle
      have hsame := hperm _ horder
      unfold chosen at hsame ⊢
      cases hresult : dedupCandidates platform (d :: (before ++ after)) with
      | error conflict =>
        have hconflict := dedupCandidates_fails_iff.mp ⟨conflict, hresult⟩
        simp only [Conflicting, ← horder.mem_iff] at hconflict
        exact absurd hconflict hagree
      | ok result =>
        rw [hresult] at hsame
        exact ⟨_, hsame.symm, chosen_first hd horder hresult⟩
    obtain ⟨choice, hchoice, hchosenA⟩ := hfirst a ha
    obtain ⟨choice', hchoice', hchosenB⟩ := hfirst b hb
    cases Option.mem_unique hchoice hchoice'
    rw [hschema, hchosenB] at hchosenA
    exact (Option.some.inj hchosenA).symm
  · intro hcondition
    refine ⟨dedupCandidates_fails_iff, ?_, ?_⟩
    · intro choice hchoice schemaName
      unfold chosen at hchoice
      cases hresult : dedupCandidates platform candidates with
      | error conflict =>
        rw [hresult] at hchoice
        cases hchoice
      | ok result =>
        rw [hresult] at hchoice
        cases hchoice
        obtain ⟨hsome, hnone⟩ := dedupCandidates_ok hresult schemaName
        exact ⟨fun a ha => ⟨(hsome a ha).1, (hsome a ha).2.1⟩, hnone⟩
    · intro others hperm
      have hconflict : Conflicting platform others ↔ Conflicting platform candidates := by
        simp only [Conflicting, hperm.mem_iff]
      unfold chosen
      cases hresult : dedupCandidates platform candidates with
      | error conflict =>
        obtain ⟨conflict', hother⟩ := dedupCandidates_fails_iff.mpr
          (hconflict.mpr (dedupCandidates_fails_iff.mp ⟨conflict, hresult⟩))
        rw [hother]
        rfl
      | ok result =>
        have hagree : ¬Conflicting platform candidates := fun h => by
          obtain ⟨conflict, herror⟩ := dedupCandidates_fails_iff.mpr h
          rw [hresult] at herror
          cases herror
        cases hother : dedupCandidates platform others with
        | error conflict =>
          exact absurd (hconflict.mp (dedupCandidates_fails_iff.mp ⟨conflict, hother⟩)) hagree
        | ok result' =>
          refine congrArg some (funext fun schemaName => ?_)
          obtain ⟨hsome, hnone⟩ := dedupCandidates_ok hresult schemaName
          obtain ⟨hsome', hnone'⟩ := dedupCandidates_ok hother schemaName
          cases hget : InsertionMap.get result schemaName with
          | none =>
            refine Option.eq_none_iff_forall_not_mem.mpr fun a ha => ?_
            obtain ⟨hname, hleast, -⟩ := hsome' a ha
            exact hnone hget a (hperm.mem_iff.mpr hleast.1) hname
          | some a =>
            obtain ⟨hname, hleast, -⟩ := hsome a hget
            cases hget' : InsertionMap.get result' schemaName with
            | none => exact absurd hname (hnone' hget' a (hperm.mem_iff.mp hleast.1))
            | some b =>
              obtain ⟨hname', hleast', -⟩ := hsome' b hget'
              have hleastB : IsLeast platform candidates b := by
                simpa only [IsLeast, hperm.mem_iff] using hleast'
              exact congrArg some (hcondition.resolve_left hagree b a hleastB hleast
                (hname'.trans hname.symm))

/-- An accent after its letter is one letter with it. -/
def compose : JsText → JsText
  | 0x65 :: 0x301 :: rest => 0xe9 :: compose rest
  | u :: rest => u :: compose rest
  | [] => []

/-- All files have one content, and texts are compared after their accents are composed. -/
def composingPlatform : Platform where
  contents _ := []
  digest bytes := bytes.map UInt8.toUInt16
  digest_injective a b h := by
    refine List.map_injective_iff.mpr (fun x y hxy => ?_) h
    have hnat := congrArg UInt16.toNat hxy
    rw [UInt8.toNat_toUInt16, UInt8.toNat_toUInt16] at hnat
    exact UInt8.toNat_inj.mp hnat
  localeCompare a b := JsText.compareUnits (compose a) (compose b)
  localeCompare_swap _ _ := JsText.compareUnits_swap _ _
  localeCompare_trans _ _ _ := JsText.compareUnits_trans

/-- A database from an archive with an accent in its name. -/
def archived (letter : JsText) : Candidate where
  absPath := letter
  schemaName := JsText.ofString "nq_fixture"
  sourceKind := .zip
  sourceLabel := letter ++ JsText.ofString ".zip -> fixture.mdb"

theorem accents_order_chosen :
    ¬∀ platform candidates, (candidates.map (·.sourceLabel)).Nodup →
      ∀ others, candidates.Perm others → chosen platform others = chosen platform candidates := by
  intro hsame
  have hswapped := hsame composingPlatform [archived [0xe9], archived [0x65, 0x301]] (by decide)
    _ (List.Perm.swap _ _ [])
  have hlabels := congrArg (fun choice => choice.bind fun choice =>
    (choice (JsText.ofString "nq_fixture")).map (·.absPath)) hswapped
  revert hlabels
  decide

end Aiphabee.DeliveryCandidates
