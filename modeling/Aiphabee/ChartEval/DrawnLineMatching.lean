import Aiphabee.ChartEval.SelfConsistency
import Aiphabee.Matching.FirstFit

/-!
# Which drawn lines are matched

`drawnLineAnchorsOutcome` gives each line of the truth, in turn, the first unused line of
the parse of its kind and within the tolerance.  This is a hit exactly when the lines can
be paired by first fit.  Another pairing may be missed: a line may take the only line that
a later one is within the tolerance of, and whether it does depends on the order of the
lines.
-/

namespace Aiphabee.ChartEval

open SequentialMatching

section Hits

variable {parsed : ChartParseResult}
variable {truth : SampleTruth}
variable {tolerance : JsNumber}

def LinesUnambiguous (parsed : ChartParseResult) (truth : SampleTruth) (tolerance : JsNumber) :
    Prop :=
  Unambiguous (lineWithin tolerance) parsed.drawnLines truth.drawnLines

def LinesPaired (parsed : ChartParseResult) (truth : SampleTruth) (tolerance : JsNumber) : Prop :=
  parsed.drawnLines.length = truth.drawnLines.length ∧
    ∃ place : Fin truth.drawnLines.length → Fin parsed.drawnLines.length,
      Function.Bijective place ∧
        ∀ line, lineWithin tolerance parsed.drawnLines[place line] truth.drawnLines[line] = true

theorem linesPaired_iff :
    LinesPaired parsed truth tolerance ↔
      parsed.drawnLines.length = truth.drawnLines.length ∧
        ∃ place, IsPairing (lineWithin tolerance) parsed.drawnLines truth.drawnLines place :=
  and_congr_right fun _ => exists_congr fun _ => ⟨fun h => ⟨h.1, h.2⟩, fun h => ⟨h.1, h.2⟩⟩

theorem linesPaired_perm {parsed' : ChartParseResult} {truth' : SampleTruth}
    (hparsed : parsed.drawnLines.Perm parsed'.drawnLines)
    (htruth : truth.drawnLines.Perm truth'.drawnLines) :
    LinesPaired parsed truth tolerance ↔ LinesPaired parsed' truth' tolerance := by
  rw [linesPaired_iff, linesPaired_iff]
  refine and_congr ?_ (exists_isPairing_perm hparsed htruth)
  rw [hparsed.length_eq, htruth.length_eq]

theorem linesPaired_of_hit (hhit : (drawnLineAnchorsOutcome parsed truth tolerance).hit = true) :
    LinesPaired parsed truth tolerance := by
  obtain ⟨-, hlength, htaken⟩ := drawnLineAnchors_hit_iff_takeFirst.mp hhit
  obtain ⟨place, hplace⟩ := (takeFirst_iff_isFirstFit hlength).mp htaken
  exact ⟨hlength, place, hplace.bijective, hplace.fits⟩

theorem drawnLineAnchors_hit_of_unambiguous
    (hunambiguous : LinesUnambiguous parsed truth tolerance) :
    (drawnLineAnchorsOutcome parsed truth tolerance).hit = true ↔
      truth.drawnLines ≠ [] ∧ LinesPaired parsed truth tolerance := by
  rw [drawnLineAnchors_hit_iff_takeFirst, linesPaired_iff]
  exact and_congr_right fun _ => and_congr_right fun hlength =>
    takeFirst_iff_isPairing hlength hunambiguous

/--
The drawn lines are hit exactly when there are some, as many in the parse, and they can be
paired by first fit: a line of the parse in front of the one of a line of the truth, when it
is within the tolerance of that line, too, belongs to an earlier line of the truth.  Lines
that are unambiguous are hit exactly when there are some and they can be paired at all, in
every order of either list.
-/
theorem drawnLineAnchors_exact (parsed : ChartParseResult) (truth : SampleTruth)
    (tolerance : JsNumber) :
    ((drawnLineAnchorsOutcome parsed truth tolerance).hit = true ↔
        truth.drawnLines ≠ [] ∧ parsed.drawnLines.length = truth.drawnLines.length ∧
          ∃ place : Fin truth.drawnLines.length → Fin parsed.drawnLines.length,
            Function.Bijective place ∧
              (∀ line, lineWithin tolerance parsed.drawnLines[place line]
                truth.drawnLines[line] = true) ∧
              ∀ line candidate, candidate < place line →
                lineWithin tolerance parsed.drawnLines[candidate] truth.drawnLines[line] = true →
                  ∃ earlier < line, place earlier = candidate) ∧
      ((drawnLineAnchorsOutcome parsed truth tolerance).hit = true →
        LinesPaired parsed truth tolerance) ∧
      (LinesUnambiguous parsed truth tolerance →
        ((drawnLineAnchorsOutcome parsed truth tolerance).hit = true ↔
          truth.drawnLines ≠ [] ∧ LinesPaired parsed truth tolerance) ∧
        ∀ (parsed' : ChartParseResult) (truth' : SampleTruth),
          parsed.drawnLines.Perm parsed'.drawnLines → truth.drawnLines.Perm truth'.drawnLines →
            (drawnLineAnchorsOutcome parsed' truth' tolerance).hit =
              (drawnLineAnchorsOutcome parsed truth tolerance).hit) := by
  refine ⟨?_, fun hhit => ?_, fun hunambiguous => ⟨?_, ?_⟩⟩
  · rw [drawnLineAnchors_hit_iff_takeFirst]
    refine and_congr_right fun _ => and_congr_right fun hlength => ?_
    rw [takeFirst_iff_isFirstFit hlength]
    exact exists_congr fun place => ⟨fun h => ⟨h.bijective, h.fits, h.first⟩,
      fun h => { bijective := h.1, fits := h.2.1, first := h.2.2 }⟩
  · exact linesPaired_of_hit hhit
  · exact drawnLineAnchors_hit_of_unambiguous hunambiguous
  · intro parsed' truth' hparsed htruth
    have hnone : truth'.drawnLines ≠ [] ↔ truth.drawnLines ≠ [] :=
      not_congr ⟨fun h => (h ▸ htruth).eq_nil, fun h => (h ▸ htruth).symm.eq_nil⟩
    refine Bool.eq_iff_iff.mpr ?_
    rw [drawnLineAnchors_hit_of_unambiguous (Unambiguous.perm hparsed htruth hunambiguous),
      drawnLineAnchors_hit_of_unambiguous hunambiguous, ← linesPaired_perm hparsed htruth, hnone]

end Hits

def chartWithLines (lines : List TruthDrawnLine) : SampleTruth :=
  (appleSample .horizontalLine [] lines).truth

def parseOfLines (lines : List TruthDrawnLine) : ChartParseResult :=
  truthAsChartParseResult (chartWithLines lines)

/--
Two levels are paired with the levels read off, but the first one takes the level that only
the second one is left with.  Read off in the other order, both are hit.  No lines are no
hit, either.
-/
theorem drawnLineAnchors_not_exact :
    ¬(∀ (parsed : ChartParseResult) (truth : SampleTruth) (tolerance : JsNumber),
        (drawnLineAnchorsOutcome parsed truth tolerance).hit = true ↔
          LinesPaired parsed truth tolerance) ∧
      (drawnLineAnchorsOutcome (parseOfLines [level 9, level 7])
        (chartWithLines [level 8, level 10])
          (.finite (1 / 16))).hit = false ∧
      (drawnLineAnchorsOutcome (parseOfLines [level 7, level 9])
        (chartWithLines [level 8, level 10])
          (.finite (1 / 16))).hit = true ∧
      LinesPaired (parseOfLines [level 9, level 7]) (chartWithLines [level 8, level 10])
        (.finite (1 / 16)) := by
  have hmiss : (drawnLineAnchorsOutcome (parseOfLines [level 9, level 7])
      (chartWithLines [level 8, level 10]) (.finite (1 / 16))).hit = false := by
    decide +kernel
  have hhit : (drawnLineAnchorsOutcome (parseOfLines [level 7, level 9])
      (chartWithLines [level 8, level 10]) (.finite (1 / 16))).hit = true := by
    decide +kernel
  have hturned : LinesPaired (parseOfLines [level 7, level 9]) (chartWithLines [level 8, level 10])
      (.finite (1 / 16)) := linesPaired_of_hit hhit
  have hpaired : LinesPaired (parseOfLines [level 9, level 7]) (chartWithLines [level 8, level 10])
      (.finite (1 / 16)) := (linesPaired_perm (List.Perm.swap _ _ _) (List.Perm.refl _)).mp hturned
  refine ⟨fun h => ?_, hmiss, hhit, hpaired⟩
  have hclaimed := (h _ _ _).mpr hpaired
  rw [hmiss] at hclaimed
  cases hclaimed

end Aiphabee.ChartEval
