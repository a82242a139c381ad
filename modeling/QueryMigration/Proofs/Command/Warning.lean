import QueryMigration.Proofs.Command.Outcome
import QueryMigration.Proofs.SourceFile.Message
import QueryMigration.Proofs.Terminal.Even
import QueryMigration.Proofs.Terminal.Summary

/-! The warning about refused statements comes before the settings, so the logger of the run before
decides about it. -/

namespace QueryMigration.Command

open Text Settings Terminal SourceFile Log Quoted

section Lines

theorem load_records {d : Disk} {e : DotEnv.Error} (h : loadStatements d = .error e) (place : Place)
    (environment : Environment) (line : CommandLine) (visit : Visiting) :
    (load d place environment line visit).records = [refusal e] := by
  simp only [load, h]

theorem forcesQuotes_message (e : DotEnv.Error) :
    e.message.any (forcesQuotes ·.shown) = true := by
  refine List.any_eq_true.2 ⟨.char ' ', ?_, by decide⟩
  cases e with
  | badName found statement =>
    exact List.mem_append_left _ (List.mem_append_left _ (List.mem_append_left _ (by decide)))
  | missingName => decide
  | unterminated value => exact List.mem_append_left _ (by decide)

theorem quote_suffix_refusal (e : DotEnv.Error) : [doubleQuote, '\n'] <:+ (refusal e).line :=
  Record.quote_suffix_line .warn "ignoring .env" [] "error" (forcesQuotes_message e)

theorem unquoted_paint {t : Text} {c : Char} (hline : '\n' ∉ t) (hc : c.isAlphanum = true)
    (style : Style) : Unquoted (style.paint .failure (t ++ [c]) ++ ['\n']) := by
  have hne (d : Char) (hd : d.isAlphanum = false) : c ≠ d := by
    rintro rfl
    exact absurd (hc.symm.trans hd) (by decide)
  have hfeed : '\n' ∉ t ++ [c] := by simp [hline, (hne '\n' rfl).symm]
  cases hplain : style.plain with
  | true =>
    rw [Style.paint, if_pos hplain]
    exact unquoted_line hfeed (by simp [hne doubleQuote rfl])
  | false =>
    have hsettled : '\n' ∉ settle t ++ [c] := by
      rw [List.mem_append, not_or, List.mem_singleton]
      refine ⟨fun h => ?_, (hne '\n' rfl).symm⟩
      exact (mem_of_mem_settle h).elim (by decide) hline
    -- Settling keeps the last character, which is no tab and ends no line.
    rw [paint_line hplain hfeed, settle_concat (hne '\t' rfl) (hne '\n' rfl)]
    unfold Profile.colour
    split
    · exact unquoted_line hsettled (by simp [hne doubleQuote rfl])
    · rename_i codes hcodes
      have hcolour : '\n' ∉ sequence codes :=
        notMem_sequence (by decide) rfl (isCodes_of_codes? hcodes)
      have hreset : '\n' ∉ reset := by decide
      refine unquoted_line ?_ ?_
      · rw [List.mem_append, List.mem_append, not_or, not_or]
        exact ⟨⟨hcolour, hsettled⟩, hreset⟩
      · have hlast : reset.getLast? = some 'm' := rfl
        rw [List.getLast?_append, hlast, Option.some_or]
        decide

theorem unquoted_failure {message : String} (hline : '\n' ∉ message.toList)
    (hend : EndsPlain message) (style : Style) :
    Unquoted (style.failure ("Error: " ++ message).toList) := by
  obtain ⟨c, hlast, hc⟩ := hend
  obtain ⟨front, hfront⟩ := List.getLast?_eq_some_iff.1 hlast
  rw [hfront, List.mem_append, not_or] at hline
  rw [Style.failure, String.toList_append, hfront, ← List.append_assoc, ← List.append_assoc]
  refine unquoted_paint ?_ hc style
  rw [List.mem_append, not_or]
  exact ⟨by decide, hline.1⟩

theorem unquoted_completion (report : Report) : Unquoted (completion report).line := by
  refine Record.unquoted_line .info "rewrite complete" [⟨"path", .text report.path⟩] ?_ ?_
  · simp
  · cases report.changed <;> decide

theorem quote_notMem_summary {d : Disk} {path : String} {report : Report}
    (h : (migrate d path).result = .ok report) (plain : Bool) :
    doubleQuote ∉ summary plain (summaryRows report) := by
  have hfixed : ∀ p ∈ Pass.migration, escapeChar ∉ p.name.toList ∧ doubleQuote ∉ p.name.toList := by
    decide
  have hnames : ∀ row ∈ summaryRows report,
      escapeChar ∉ row.pass.toList ∧ doubleQuote ∉ row.pass.toList := by
    intro row hrow
    obtain ⟨c, hc, rfl⟩ := List.mem_map.1 hrow
    obtain ⟨p, hp, hname⟩ := exists_pass_of_mem_changes h hc
    rw [← hname]
    exact hfixed p hp
  cases plain with
  | true => exact notMem_summary (by decide) rfl fun row hrow => (hnames row hrow).2
  | false =>
    exact notMem_summary_styled (by decide) rfl (fun _ => notMem_sequence (by decide) rfl) hnames

end Lines

section Runs

variable {place : Place} {state : State} {call : Call} {host : Host} {path : String}
  {settings : Settings}

/-- What a run writes to standard error besides its warning has no line that ends in a quote mark. -/
theorem Starts.exists_unquoted (h : Starts place state call host path settings)
    (hopen : call.errorsOpen = true) (hpath : '\n' ∉ path.toList) {e : DotEnv.Error}
    (hrefused : loadStatements state.disk = .error e) :
    ∃ rest, Unquoted rest ∧
      (run place state call host).2.stderr = state.logger.write [refusal e] ++ rest := by
  obtain ⟨line, names, hload⟩ := h
  have hrecords := load_records hrefused place call.environment line host.visit
  have hnoted := Logger.unquoted_write (unquoted_records state.disk path) ⟨settings.debug⟩
  cases hfile : (migrate state.disk path).result with
  | error failure =>
    have hends := ends_migrate state.disk path
    rw [hfile] at hends
    have htold := unquoted_failure (hends.lineFeed_notMem_message hpath) failure.endsPlain_message
      (state.look settings)
    refine ⟨_, hnoted.append htold, ?_⟩
    rw [(Ends.failed names hload hfile).run_eq]
    simp only [failing, Call.received, hopen, if_true, State.noted, hrecords, List.append_assoc]
    rfl
  | ok report =>
    have hcompleted : ∀ r ∈ [completion report], Unquoted r.line :=
      List.forall_mem_singleton.2 (unquoted_completion report)
    have hsummed : Unquoted
        (if settings.summary then summary settings.noColor (summaryRows report) else []) := by
      split
      · exact unquoted_of_notMem (quote_notMem_summary hfile _)
      · exact unquoted_of_notMem List.not_mem_nil
    refine ⟨_, (hnoted.append (Logger.unquoted_write hcompleted ⟨settings.debug⟩)).append hsummed, ?_⟩
    rw [(Ends.done names hload hfile fun _ => hopen).run_eq]
    simp only [Call.received, hopen, if_true, State.noted, hrecords, List.append_assoc]

theorem Starts.refusal_not_told (h : Starts place state call host path settings)
    (hopen : call.errorsOpen = true) (hpath : '\n' ∉ path.toList) {e : DotEnv.Error}
    (hrefused : loadStatements state.disk = .error e) (hoff : state.logger.enabled = false) :
    ¬ (refusal e).line <:+: (run place state call host).2.stderr := by
  obtain ⟨rest, hrest, hstderr⟩ := h.exists_unquoted hopen hpath hrefused
  rw [hstderr, Logger.write, hoff, if_neg (by decide), List.nil_append]
  intro htold
  exact hrest.not_infix ((quote_suffix_refusal e).isInfix.trans htold)

/-- Refused statements are told of exactly if the run before has left a logger that writes. Whether
the settings of the run itself ask for one makes no difference. A path with a line feed is left out:
the failure that names it could repeat the warning. -/
theorem refusal_told_iff_logger_enabled (h : Starts place state call host path settings)
    (hopen : call.errorsOpen = true) (hpath : '\n' ∉ path.toList) {e : DotEnv.Error}
    (hrefused : loadStatements state.disk = .error e) :
    (refusal e).line <:+: (run place state call host).2.stderr ↔ state.logger.enabled = true := by
  constructor
  · intro htold
    by_contra hoff
    rw [Bool.not_eq_true] at hoff
    exact h.refusal_not_told hopen hpath hrefused hoff htold
  · intro hon
    obtain ⟨rest, -, hstderr⟩ := h.exists_unquoted hopen hpath hrefused
    rw [hstderr, Logger.write, if_pos hon, List.flatMap_singleton]
    exact (List.prefix_append _ rest).isInfix

def refusedSource : Disk :=
  (settledSource "\x7b\x7d".toList).put ".env" ⟨File.encode "!".toList, 0o644, false⟩

theorem loadStatements_refusedSource :
    loadStatements refusedSource = .error (.badName '!' [.char '!']) := by
  decide +kernel

def refusedState (logger : Logger) : State := ⟨refusedSource, logger, ⟨false, .trueColor⟩⟩

def debugCall : Call := ⟨["--debug", "users.ts"], [], true⟩

theorem starts_debugCall (logger : Logger) :
    Starts rootPlace (refusedState logger) debugCall .standard "users.ts" ⟨true, false, false⟩ := by
  have hparse : (CommandLine.parse Switch.all debugCall.arguments).toOption =
      some ⟨[(.debug, true)], ["users.ts"]⟩ := by
    decide +kernel
  have hload : (load refusedSource rootPlace [] ⟨[(.debug, true)], ["users.ts"]⟩).result.toOption =
      some ⟨true, false, false⟩ := by
    decide +kernel
  exact starts_of_toOption (by decide +kernel) hparse rfl rfl rfl hload

/-- Of two runs of the same call only the second one tells of the statements. -/
theorem refusal_told_iff_logger_enabled_debugCall :
    ¬ (refusal (.badName '!' [.char '!'])).line <:+:
        (run rootPlace (refusedState .off) debugCall).2.stderr ∧
      (refusal (.badName '!' [.char '!'])).line <:+:
        (run rootPlace (refusedState ⟨true⟩) debugCall).2.stderr := by
  have hpath : '\n' ∉ "users.ts".toList := by decide
  have htold (logger : Logger) := refusal_told_iff_logger_enabled (starts_debugCall logger) rfl hpath
    loadStatements_refusedSource
  exact ⟨fun h => absurd ((htold .off).1 h) (by decide), (htold ⟨true⟩).2 rfl⟩

/-- In a fresh process the warning is lost, although the settings ask for diagnostic records. -/
theorem refusal_lost_in_debug_mode :
    ∃ settings, Starts rootPlace (refusedState .off) debugCall .standard "users.ts" settings ∧
      settings.debug = true ∧
      loadStatements (refusedState .off).disk = .error (.badName '!' [.char '!']) ∧
      debugCall.errorsOpen = true ∧
      ¬ (refusal (.badName '!' [.char '!'])).line <:+:
        (run rootPlace (refusedState .off) debugCall).2.stderr := by
  refine ⟨_, starts_debugCall .off, rfl, loadStatements_refusedSource, rfl, ?_⟩
  exact (starts_debugCall .off).refusal_not_told rfl (by decide) loadStatements_refusedSource rfl

end Runs

end QueryMigration.Command
