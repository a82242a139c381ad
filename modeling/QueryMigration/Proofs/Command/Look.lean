import QueryMigration.Proofs.Command.Outcome
import QueryMigration.Proofs.Settings.Precedence
import QueryMigration.Proofs.Terminal.Even

/-! The switch for plain output. Two messages come before the settings, and it is too late for
these. -/

namespace QueryMigration.Command

open Text Settings Terminal SourceFile

def State.dressed (state : State) (plain : Bool) : State :=
  { state with style := { state.style with plain := plain } }

def settingsMessage (e : LoadError) : Text :=
  "✗ ".toList ++ ("Error: " ++ (Error.settings e).message).toList

variable {place : Place} {state : State} {call : Call} {host : Host} {line : CommandLine}

theorem paint_dressed_eq_iff {tone : Tone} {t : Text} :
    (state.dressed false).style.paint tone t = (state.dressed true).style.paint tone t ↔
      state.style.profile = .ascii ∧ Even t := by
  have hplain : (state.dressed true).style.paint tone t = t := rfl
  rw [hplain, paint_eq_self_iff rfl]
  rfl

theorem usage_dressed_eq_iff :
    (state.dressed false).style.usage name.toList = (state.dressed true).style.usage name.toList ↔
      state.style.profile = .ascii := by
  have heven : Even "Rewrites SQLite-style queries in <file> for PostgreSQL, in place.".toList :=
    even_of_line (notMem_toList rfl (by decide +kernel)) (notMem_toList rfl (by decide +kernel))
  unfold Style.usage
  generalize "Rewrites SQLite-style queries in <file> for PostgreSQL, in place.".toList = message
    at heven ⊢
  rw [List.append_cancel_right_eq, List.append_cancel_left_eq, paint_dressed_eq_iff,
    and_iff_left heven]

theorem failing_dressed_eq_iff {written : Text} {e : LoadError} :
    failing call (state.dressed false).style [] written (.settings e) =
        failing call (state.dressed true).style [] written (.settings e) ↔
      (call.errorsOpen = true → state.style.profile = .ascii ∧ Even (settingsMessage e)) := by
  cases hopen : call.errorsOpen with
  | false => simp [failing, Call.received, hopen]
  | true =>
    simp only [failing, Call.received, hopen, if_true, Output.mk.injEq, true_and, forall_const,
      List.append_cancel_left_eq]
    rw [Style.failure, Style.failure, List.append_cancel_right_eq, paint_dressed_eq_iff]
    rfl

/-- Once the settings are known, the look that the run before has left does not matter. -/
theorem Starts.run_dressed {path : String} {settings : Settings}
    (h : Starts place state call host path settings) (plain : Bool) :
    run place (state.dressed plain) call host = run place state call host := by
  obtain ⟨line, names, hload⟩ := h
  have hdressed : (load (state.dressed plain).disk place call.environment line host.visit).result =
    .ok settings := hload
  rw [run_of_settings names hload, run_of_settings names hdressed]
  rfl

theorem Starts.noColor_eq {path : String} {settings : Settings}
    (h : Starts place state call host path settings) (working : Working call line)
    (hasked : line.asks .noColor = true) : settings.noColor = true := by
  obtain ⟨line', names, hload⟩ := h
  obtain rfl := Except.ok.inj (names.parsed.symm.trans working.parsed)
  obtain ⟨fields, -, rfl⟩ := exists_fields_of_load hload
  have hline : line'.value? .noColor = some true := eq_of_beq hasked
  simp only [ofSources, Sources.resolve, Sources.ofLine, sourcesOf, Key.switch, hline]
  rfl

/-- How far the switch for plain output governs a run. It turns the setting on, and the two looks
that the run before may have left give the same output exactly if no message comes before the
settings or painting leaves that message alone: a usage in a terminal without colours, or there an
error about the settings that is even, or one that nobody reads. -/
theorem plain_switch_governs_iff (working : Working call line) (hasked : line.asks .noColor = true) :
    (∀ path settings, Starts place state call host path settings → settings.noColor = true) ∧
      ((run place (state.dressed false) call host).2 = (run place (state.dressed true) call host).2 ↔
        (line.arguments.length ≠ 1 → state.style.profile = .ascii) ∧
          ∀ path e, line.arguments = [path] →
            (load state.disk place call.environment line host.visit).result = .error e →
              call.errorsOpen = true → state.style.profile = .ascii ∧ Even (settingsMessage e)) := by
  refine ⟨fun path settings h => h.noColor_eq working hasked, ?_⟩
  by_cases hcount : line.arguments.length = 1
  · obtain ⟨path, hsingle⟩ := List.length_eq_one_iff.1 hcount
    have names : Names call line path := ⟨working, hsingle⟩
    cases hload : (load state.disk place call.environment line host.visit).result with
    | error e =>
      have hrun (plain : Bool) : (run place (state.dressed plain) call host).2 =
          failing call (state.dressed plain).style []
            (state.logger.write (load state.disk place call.environment line host.visit).records)
            (.settings e) := by
        have hdressed :
            (load (state.dressed plain).disk place call.environment line host.visit).result =
              .error e := hload
        rw [(Ends.unsettled names hdressed).run_eq]
        rfl
      rw [hrun, hrun, failing_dressed_eq_iff]
      simp [hsingle]
    | ok settings =>
      have hstarts : Starts place state call host path settings := ⟨line, names, hload⟩
      simp [hstarts.run_dressed, hcount]
  · have hrun (plain : Bool) : (run place (state.dressed plain) call host).2 =
        ⟨1, (state.dressed plain).style.usage name.toList, []⟩ := by
      rw [run_of_miscounted working hcount]
    have hseveral : ∀ path, line.arguments ≠ [path] := by
      intro path hsingle
      exact hcount (by rw [hsingle]; rfl)
    rw [hrun, hrun, Output.mk.injEq, usage_dressed_eq_iff]
    simp [hcount, hseveral]

def bareCall : Call := ⟨["--no-color"], [], true⟩

theorem working_bareCall : Working bareCall ⟨[(.noColor, true)], []⟩ :=
  ⟨by decide +kernel, eq_ok_of_toOption (by decide +kernel), rfl, rfl⟩

def greyState : State := { freshState with style := ⟨false, .ascii⟩ }

/-- The usage is coloured in spite of the switch, where the terminal has colours. -/
theorem plain_switch_governs_iff_bareCall :
    (run rootPlace (freshState.dressed false) bareCall).2 ≠
        (run rootPlace (freshState.dressed true) bareCall).2 ∧
      (run rootPlace (greyState.dressed false) bareCall).2 =
        (run rootPlace (greyState.dressed true) bareCall).2 := by
  constructor
  · intro hsame
    have hgoverned := (plain_switch_governs_iff working_bareCall rfl).2.1 hsame
    exact absurd (hgoverned.1 (by decide)) (by decide)
  · exact (plain_switch_governs_iff working_bareCall rfl).2.2 ⟨fun _ => rfl, fun path e => nofun⟩

def listedState : State := ⟨settledSource "[]".toList, .off, ⟨false, .ascii⟩⟩

def plainCall : Call := ⟨["--no-color", "users.ts"], [], true⟩

/-- The error about the document has two lines, and the second one is padded in spite of the switch. -/
theorem padded_in_spite_of_plain_switch :
    ∃ line, Names plainCall line "users.ts" ∧ line.asks .noColor = true ∧
      (run rootPlace (listedState.dressed false) plainCall).2 ≠
        (run rootPlace (listedState.dressed true) plainCall).2 := by
  have names : Names plainCall ⟨[(.noColor, true)], ["users.ts"]⟩ "users.ts" :=
    ⟨⟨by decide +kernel, eq_ok_of_toOption (by decide +kernel), rfl, rfl⟩, rfl⟩
  exact ⟨_, names, rfl, by decide +kernel⟩

end QueryMigration.Command
