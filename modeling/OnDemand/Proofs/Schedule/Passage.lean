import OnDemand.Proofs.Schedule.Rota

/-!
# Time passes in pieces

It makes no difference to alarms whether time passes at once or in two pieces, wherever it is
cut.  All that rings in the first piece rings first in the whole.  Between the pieces the clock
stands at the cut, where it need not have stood otherwise; but what rings next is due after the
cut, and brings the clock to its own deadline either way.
-/

namespace OnDemand

/-! ## Clocks that stand at a cut -/

namespace Agenda

variable {τ : Type} {agenda : Agenda τ} {sooner later : Time}

/-- What is due at a time is due at a later one. -/
theorem popDue?_of_le {found : Alarm τ × Agenda τ} (order : sooner ≤ later)
    (popped : agenda.popDue? sooner = some found) : agenda.popDue? later = some found := by
  obtain ⟨alarms, split, due, rest⟩ := popDue?_eq_some_iff.mp popped
  exact popDue?_eq_some_iff.mpr ⟨alarms, split, Nat.le_trans due order, rest⟩

/-- A clock that passes no alarm by may be moved on. -/
theorem popDue?_moveTo (none : agenda.popDue? sooner = none) :
    (agenda.moveTo sooner).popDue? later = agenda.popDue? later := by
  simp only [popDue?, moveTo] at none ⊢
  cases alarms : agenda.alarms with
  | nil => rfl
  | cons first rest =>
      have early : sooner < first.deadline := by
        simp only [alarms] at none
        exact Nat.lt_of_not_le fun due => by simp only [due, if_true, reduceCtorEq] at none
      have reached :
          max (max agenda.now sooner) first.deadline = max agenda.now first.deadline := by
        rw [Nat.max_assoc, Nat.max_eq_right (Nat.le_of_lt early)]
      simp only [reached]

end Agenda

namespace Diary

variable {τ : Type} {diary next last : Diary τ} {conduct : Diary τ → Alarm τ → Conduct τ}
  {sooner later limit first second : Time}

theorem step_of_le (order : sooner ≤ later) (stepped : diary.step conduct sooner = some next) :
    diary.step conduct later = some next := by
  simp only [step] at stepped ⊢
  split at stepped
  · cases stepped
  · next popped =>
      rw [Agenda.popDue?_of_le order popped]
      exact stepped

theorem step_eq_none_iff :
    diary.step conduct limit = none ↔ diary.agenda.popDue? limit = none := by
  rw [step]
  cases diary.agenda.popDue? limit with
  | none => exact iff_of_true rfl rfl
  | some found => exact iff_of_false (Option.some_ne_none _) (Option.some_ne_none _)

theorem step_moveTo (rests : diary.step conduct sooner = none) :
    (diary.moveTo sooner).step conduct later = diary.step conduct later := by
  simp only [step, moveTo, Agenda.popDue?_moveTo (step_eq_none_iff.mp rests)]

theorem moveTo_moveTo (order : sooner ≤ later) :
    (diary.moveTo sooner).moveTo later = diary.moveTo later := by
  simp only [moveTo, Agenda.moveTo, Nat.max_assoc, Nat.max_eq_right order]

/-- A diary that stands at the cut goes on as if it did not. -/
theorem exhausts_moveTo (order : sooner ≤ later) (rests : diary.step conduct sooner = none)
    (exhausts : Exhausts (step conduct later) diary last) :
    ∃ reached, Exhausts (step conduct later) (diary.moveTo sooner) reached ∧
      reached.moveTo later = last.moveTo later := by
  cases exhausts with
  | rest stuck => exact ⟨_, .rest ((step_moveTo rests).trans stuck), moveTo_moveTo order⟩
  | take taken later => exact ⟨_, .take ((step_moveTo rests).trans taken) later, rfl⟩

theorem now_obey (diary : Diary τ) (order : DiaryOrder τ) :
    (diary.obey order).agenda.now = diary.agenda.now := by
  cases order with
  | set delay task => rfl
  | cancel handle =>
      simp only [obey]
      split <;> rfl

/-- No alarm that rings takes the clock beyond the time at which it was to be due. -/
theorem now_le_of_exhausts (exhausts : Exhausts (step conduct limit) diary last)
    (start : diary.agenda.now ≤ limit) : last.agenda.now ≤ limit := by
  induction exhausts with
  | rest _ => exact start
  | take taken _ ih =>
      refine ih (step_preserves (fun diary => diary.agenda.now ≤ limit) ?_ ?_ taken)
      · intro alarm rest popped failed
        obtain ⟨_, _, due, rfl⟩ := Agenda.popDue?_eq_some_iff.mp popped
        exact Nat.max_le.mpr ⟨start, due⟩
      · intro order diary early
        rwa [now_obey]

/-! ## The two pieces -/

theorem advance_of_exhausts {fuel : Nat} (returns : diary.Returns conduct fuel (.advance first))
    (exhausts : Exhausts (step conduct (diary.agenda.now + first)) diary last) :
    diary.advance conduct first fuel = last.moveTo (diary.agenda.now + first) := by
  have reached : diary.drain conduct (diary.agenda.now + first) fuel = last :=
    (Exhausts.of_exhaust returns).unique exhausts
  rw [advance, reached]

/-- What rings in a time rings in its first piece, or after it, from a clock that stands at the
cut. -/
theorem exhausts_pieces (second : Time)
    (exhausts : Exhausts (step conduct (diary.agenda.now + (first + second))) diary last) :
    ∃ between after, Exhausts (step conduct (diary.agenda.now + first)) diary between ∧
      (between.moveTo (diary.agenda.now + first)).agenda.now = diary.agenda.now + first ∧
      Exhausts (step conduct (diary.agenda.now + (first + second)))
        (between.moveTo (diary.agenda.now + first)) after ∧
      after.moveTo (diary.agenda.now + (first + second)) =
        last.moveTo (diary.agenda.now + (first + second)) := by
  have order : diary.agenda.now + first ≤ diary.agenda.now + (first + second) :=
    Nat.add_le_add_left (Nat.le_add_right _ _) _
  obtain ⟨between, before, behind⟩ := exhausts.split fun _ _ => step_of_le order
  obtain ⟨after, goesOn, same⟩ := exhausts_moveTo order before.stuck behind
  refine ⟨between, after, before, ?_, goesOn, same⟩
  exact Nat.max_eq_right (now_le_of_exhausts before (Nat.le_add_right _ _))

/-- Two calls, one after the other, do what one call does for the whole time, if all of them
return. -/
theorem advance_advance {whole part rest : Nat}
    (returns : diary.Returns conduct whole (.advance (first + second)))
    (returnsPart : diary.Returns conduct part (.advance first))
    (returnsRest : (diary.advance conduct first part).Returns conduct rest (.advance second)) :
    (diary.advance conduct first part).advance conduct second rest =
      diary.advance conduct (first + second) whole := by
  have exhausts := Exhausts.of_exhaust returns
  obtain ⟨between, after, before, stands, goesOn, same⟩ := exhausts_pieces second exhausts
  rw [advance_of_exhausts returnsPart before] at returnsRest ⊢
  have limit : (between.moveTo (diary.agenda.now + first)).agenda.now + second =
      diary.agenda.now + (first + second) := by
    rw [stands, Nat.add_assoc]
  rw [advance_of_exhausts returnsRest (limit ▸ goesOn), limit, same,
    advance_of_exhausts returns exhausts]

theorem exists_returns (call : DiaryCall)
    (exhausts : Exhausts (step conduct (diary.horizon call)) diary last) :
    ∃ enough, ∀ fuel, enough ≤ fuel → diary.Returns conduct fuel call := by
  obtain ⟨enough, reached⟩ := exhausts.exists_enough
  refine ⟨enough, fun fuel more => ?_⟩
  rw [Returns, drain, reached fuel more]
  exact exhausts.stuck

/-- A call that returns does so also in two pieces, with any fuel that is enough. -/
theorem exists_returns_pieces {whole : Nat}
    (returns : diary.Returns conduct whole (.advance (first + second))) :
    ∃ enough, ∀ fuel, enough ≤ fuel →
      diary.Returns conduct fuel (.advance (first + second)) ∧
        diary.Returns conduct fuel (.advance first) ∧
        (diary.advance conduct first fuel).Returns conduct fuel (.advance second) := by
  have exhausts := Exhausts.of_exhaust returns
  obtain ⟨between, after, before, stands, goesOn, _⟩ := exhausts_pieces second exhausts
  have rest : Exhausts
      (step conduct ((between.moveTo (diary.agenda.now + first)).horizon (.advance second)))
      (between.moveTo (diary.agenda.now + first)) after := by
    rwa [horizon, stands, Nat.add_assoc]
  obtain ⟨enoughWhole, returnsWhole⟩ := exists_returns (.advance (first + second)) exhausts
  obtain ⟨enoughPart, returnsPart⟩ := exists_returns (.advance first) before
  obtain ⟨enoughRest, returnsRest⟩ := exists_returns (.advance second) rest
  refine ⟨max enoughWhole (max enoughPart enoughRest), fun fuel more => ?_⟩
  obtain ⟨moreWhole, more⟩ := Nat.max_le.mp more
  obtain ⟨morePart, moreRest⟩ := Nat.max_le.mp more
  refine ⟨returnsWhole fuel moreWhole, returnsPart fuel morePart, ?_⟩
  rw [advance_of_exhausts (returnsPart fuel morePart) before]
  exact returnsRest fuel moreRest

end Diary

namespace Rota

/-- For a rota it makes no difference whether time passes at once or in two pieces. -/
theorem advance_advance (rota : Rota) (first second : Time) :
    (rota.advance first).advance second = rota.advance (first + second) :=
  Diary.advance_advance (returns rota (.advance (first + second))) (returns rota (.advance first))
    (returns (rota.advance first) (.advance second))

/-- A rota two of whose chores are overdue.  The first of them is followed by one that is due after
three, takes off another, and is followed by one that is due at once. -/
def overdue : Rota :=
  passTime 4 (addAll {} [.mk 1 1 [] [.mk 3 3 [5] [.mk 4 0 [] [] false] true] false,
    .mk 2 2 [] [] false, .mk 5 8 [] [] false, .mk 6 9 [] [] false]).2

example : (overdue.advance 7).runs =
    [⟨6, 9, false⟩, ⟨4, 7, false⟩, ⟨3, 7, true⟩, ⟨2, 4, false⟩, ⟨1, 4, false⟩] := rfl

end Rota

namespace Diary

variable {τ : Type}

/-- Cutting a time in two changes nothing, wherever the clock stands and whatever is overdue, if
the tasks do not go on for ever setting further alarms.  All calls return, and the diaries after
the two pieces and after the whole are the same: the same alarms rang in the same order, each with
the clock at the same time, and the same are left. -/
theorem advance_cut_in_two (conduct : Diary τ → Alarm τ → Conduct τ) (diary : Diary τ)
    (first second : Time)
    (finite : diary.SetsFinitely conduct (diary.agenda.now + (first + second))) :
    ∃ enough, ∀ fuel, enough ≤ fuel →
      let between := diary.advance conduct first fuel
      diary.Returns conduct fuel (.advance (first + second)) ∧
        diary.Returns conduct fuel (.advance first) ∧
        between.Returns conduct fuel (.advance second) ∧
        between.advance conduct second fuel = diary.advance conduct (first + second) fuel := by
  obtain ⟨whole, returns⟩ := finite.exists_returns (.advance (first + second))
  obtain ⟨enough, returnsAll⟩ := exists_returns_pieces returns
  refine ⟨enough, fun fuel more => ?_⟩
  obtain ⟨returns, returnsPart, returnsRest⟩ := returnsAll fuel more
  exact ⟨returns, returnsPart, returnsRest,
    advance_advance returns returnsPart returnsRest⟩

theorem advance_cut_in_two_overdue :
    SetsFinitely Rota.conduct (Rota.overdue.agenda.now + (3 + 4)) Rota.overdue ∧
    ∃ fuel, advance Rota.conduct 4 fuel (advance Rota.conduct 3 fuel Rota.overdue) =
      advance Rota.conduct 7 fuel Rota.overdue := by
  have finite : SetsFinitely Rota.conduct (Rota.overdue.agenda.now + (3 + 4)) Rota.overdue :=
    setsFinitely_of_returns (Rota.returns Rota.overdue (.advance 7))
  obtain ⟨enough, pieces⟩ := advance_cut_in_two Rota.conduct Rota.overdue 3 4 finite
  exact ⟨finite, enough, (pieces enough (Nat.le_refl _)).2.2.2⟩

end Diary

end OnDemand
