import QueryMigration.Command
import QueryMigration.Proofs.SourceFile.Outcome
import QueryMigration.Proofs.Terminal.Painted

/-! The endings of a run, and what they say together: the disk, the success line and the exit code.
-/

namespace QueryMigration.Command

open Text Settings Terminal SourceFile

section Endings

/-- Whether a call is about files: it is no request of a shell, and its command line can be read and
asks neither for help nor for the version. -/
structure Working (call : Call) (line : CommandLine) : Prop where
  own : isRequest call.arguments = false
  parsed : CommandLine.parse Switch.all call.arguments = .ok line
  help : line.asks .help = false
  version : line.asks .version = false

structure Names (call : Call) (line : CommandLine) (path : String) : Prop
    extends Working call line where
  single : line.arguments = [path]

def State.look (state : State) (settings : Settings) : Style :=
  { state.style with plain := settings.noColor }

/-- What stands on standard error when the migration of a file is over: first what the logger of the
run before has written. -/
def State.noted (state : State) (loaded : Loaded) (settings : Settings) (path : String) : Text :=
  state.logger.write loaded.records ++
    Log.Logger.write ⟨settings.debug⟩ (migrate state.disk path).records

def State.afterwards (state : State) (settings : Settings) (path : String) : State :=
  ⟨(migrate state.disk path).disk, ⟨settings.debug⟩, state.look settings⟩

inductive Ends (place : Place) (state : State) (call : Call) (host : Host) : State → Output → Prop
  | requested (hrequest : isRequest call.arguments = true) :
      Ends place state call host state
        (answer call state.style (host.reply call.arguments call.environment))
  | misread {e : FlagError} (hown : isRequest call.arguments = false)
      (hparse : CommandLine.parse Switch.all call.arguments = .error e) :
      Ends place state call host state (failing call state.style [] [] (.flags e))
  | helped {line : CommandLine} (hown : isRequest call.arguments = false)
      (hparse : CommandLine.parse Switch.all call.arguments = .ok line)
      (hhelp : line.asks .help = true) : Ends place state call host state ⟨0, helpText.toList, []⟩
  | versioned {line : CommandLine} (hown : isRequest call.arguments = false)
      (hparse : CommandLine.parse Switch.all call.arguments = .ok line)
      (hhelp : line.asks .help = false) (hversion : line.asks .version = true) :
      Ends place state call host state ⟨0, versionText.toList, []⟩
  | miscounted {line : CommandLine} (working : Working call line)
      (hcount : line.arguments.length ≠ 1) :
      Ends place state call host state ⟨1, state.style.usage name.toList, []⟩
  | unsettled {line : CommandLine} {path : String} {e : LoadError} (names : Names call line path)
      (hload : (load state.disk place call.environment line host.visit).result = .error e) :
      Ends place state call host state (failing call state.style []
        (state.logger.write (load state.disk place call.environment line host.visit).records)
        (.settings e))
  | failed {line : CommandLine} {path : String} {settings : Settings} {e : Failure}
      (names : Names call line path)
      (hload : (load state.disk place call.environment line host.visit).result = .ok settings)
      (hfile : (migrate state.disk path).result = .error e) :
      Ends place state call host (state.afterwards settings path)
        (failing call (state.look settings) []
          (state.noted (load state.disk place call.environment line host.visit) settings path)
          (.file e))
  | unsummed {line : CommandLine} {path : String} {settings : Settings} {report : Report}
      (names : Names call line path)
      (hload : (load state.disk place call.environment line host.visit).result = .ok settings)
      (hfile : (migrate state.disk path).result = .ok report) (hsummary : settings.summary = true)
      (hclosed : call.errorsOpen = false) :
      Ends place state call host (state.afterwards settings path)
        ⟨1, (state.look settings).success ("Converted " ++ path).toList, []⟩
  | done {line : CommandLine} {path : String} {settings : Settings} {report : Report}
      (names : Names call line path)
      (hload : (load state.disk place call.environment line host.visit).result = .ok settings)
      (hfile : (migrate state.disk path).result = .ok report)
      (hsummary : settings.summary = true → call.errorsOpen = true) :
      Ends place state call host (state.afterwards settings path)
        ⟨0, (state.look settings).success ("Converted " ++ path).toList,
          call.received
            (state.noted (load state.disk place call.environment line host.visit) settings path ++
            Log.Logger.write ⟨settings.debug⟩ [completion report] ++
            if settings.summary then summary settings.noColor (summaryRows report) else [])⟩

variable {place : Place} {state : State} {call : Call} {host : Host}

theorem run_of_miscounted {line : CommandLine} (working : Working call line)
    (hcount : line.arguments.length ≠ 1) :
    run place state call host = (state, ⟨1, state.style.usage name.toList, []⟩) := by
  simp only [run, working.own, working.parsed, working.help, working.version, Bool.false_eq_true,
    if_false]
  split
  · rename_i path hsingle
    simp [hsingle] at hcount
  · rfl

theorem run_of_names {line : CommandLine} {path : String} (names : Names call line path) :
    run place state call host = migrateFile place state call host line path := by
  simp only [run, names.own, names.parsed, names.help, names.version, names.single,
    Bool.false_eq_true, if_false]

theorem run_of_settings {line : CommandLine} {path : String} {settings : Settings}
    (names : Names call line path)
    (hload : (load state.disk place call.environment line host.visit).result = .ok settings) :
    run place state call host = migrateWith state call path settings
      (state.logger.write (load state.disk place call.environment line host.visit).records) := by
  rw [run_of_names names]
  simp only [migrateFile, hload]

theorem Ends.run_eq {after : State} {out : Output} (h : Ends place state call host after out) :
    run place state call host = (after, out) := by
  cases h with
  | requested hrequest => simp only [run, hrequest, if_true]
  | misread hown hparse => simp only [run, hown, hparse, Bool.false_eq_true, if_false]
  | helped hown hparse hhelp =>
    simp only [run, hown, hparse, hhelp, Bool.false_eq_true, if_false, if_true]
  | versioned hown hparse hhelp hversion =>
    simp only [run, hown, hparse, hhelp, hversion, Bool.false_eq_true, if_false, if_true]
  | miscounted working hcount => exact run_of_miscounted working hcount
  | unsettled names hload =>
    rw [run_of_names names]
    simp only [migrateFile, hload]
  | failed names hload hfile =>
    rw [run_of_settings names hload]
    simp only [migrateWith, hfile]
    rfl
  | unsummed names hload hfile hsummary hclosed =>
    rw [run_of_settings names hload]
    simp only [migrateWith, hfile, hsummary, hclosed, if_true, Bool.false_eq_true, if_false]
    simp only [failing, Call.received, hclosed, Bool.false_eq_true, if_false]
    rfl
  | @done line path settings report names hload hfile hsummary =>
    rw [run_of_settings names hload]
    simp only [migrateWith, hfile]
    cases hon : settings.summary with
    | false =>
      simp only [Bool.false_eq_true, if_false, List.append_nil]
      rfl
    | true =>
      simp only [hsummary hon, if_true]
      rfl

/-- The exit code behind a completed migration: it tells whether a summary that was asked for is
lost. -/
def CompletionExit (call : Call) (settings : Settings) (exitCode : Nat) : Prop :=
  exitCode = 0 ∧ (settings.summary = true → call.errorsOpen = true) ∨
    exitCode = 1 ∧ settings.summary = true ∧ call.errorsOpen = false

theorem exists_ends_of_ok {line : CommandLine} {path : String} {settings : Settings}
    {report : Report} (names : Names call line path)
    (hload : (load state.disk place call.environment line host.visit).result = .ok settings)
    (hfile : (migrate state.disk path).result = .ok report) :
    ∃ exitCode stderr, Ends place state call host (state.afterwards settings path)
      ⟨exitCode, (state.look settings).success ("Converted " ++ path).toList, stderr⟩ ∧
      CompletionExit call settings exitCode := by
  by_cases hsummary : settings.summary = true → call.errorsOpen = true
  · exact ⟨0, _, .done names hload hfile hsummary, Or.inl ⟨rfl, hsummary⟩⟩
  · rw [Classical.not_imp, Bool.not_eq_true] at hsummary
    exact ⟨1, [], .unsummed names hload hfile hsummary.1 hsummary.2, Or.inr ⟨rfl, hsummary⟩⟩

end Endings

section Messages

theorem notMem_toList {c : Char} {s : String} {t : Text} (hs : s = String.ofList t) (hc : c ∉ t) :
    c ∉ s.toList := by
  rw [hs, String.toList_ofList]
  exact hc

end Messages

section Account

variable {place : Place} {state : State} {call : Call} {host : Host}

/-- Whether a run comes to migrate the file at a path, and under which settings. -/
def Starts (place : Place) (state : State) (call : Call) (host : Host) (path : String)
    (settings : Settings) : Prop :=
  ∃ line, Names call line path ∧
    (load state.disk place call.environment line host.visit).result = .ok settings

structure Completes (place : Place) (state : State) (call : Call) (host : Host) (path : String)
    (settings : Settings) : Prop where
  starts : Starts place state call host path settings
  migrated : ∃ report, (migrate state.disk path).result = .ok report

variable {after : State} {out : Output}

theorem Completes.run_eq {path : String} {settings : Settings}
    (h : Completes place state call host path settings) :
    ∃ exitCode stderr, run place state call host = (state.afterwards settings path,
      ⟨exitCode, (state.look settings).success ("Converted " ++ path).toList, stderr⟩) ∧
      CompletionExit call settings exitCode := by
  obtain ⟨line, names, hload⟩ := h.starts
  obtain ⟨report, hfile⟩ := h.migrated
  obtain ⟨exitCode, stderr, hends, hexit⟩ := exists_ends_of_ok names hload hfile
  exact ⟨exitCode, stderr, hends.run_eq, hexit⟩

theorem afterwards_of_error {settings : Settings} {path : String} {e : Failure}
    (hfile : (migrate state.disk path).result = .error e) :
    (state.afterwards settings path).disk = state.disk := by
  have hends := ends_migrate state.disk path
  rw [hfile] at hends
  exact hends.disk_eq_of_error

theorem starts_of_toOption {line : CommandLine} {path : String} {settings : Settings}
    (hown : isRequest call.arguments = false)
    (hparse : (CommandLine.parse Switch.all call.arguments).toOption = some line)
    (hhelp : line.asks .help = false) (hversion : line.asks .version = false)
    (hsingle : line.arguments = [path])
    (hload : (load state.disk place call.environment line host.visit).result.toOption = some settings) :
    Starts place state call host path settings :=
  ⟨line, ⟨⟨hown, eq_ok_of_toOption hparse, hhelp, hversion⟩, hsingle⟩, eq_ok_of_toOption hload⟩

def settledSource (document : Text) : Disk :=
  (Disk.empty.put "/.fixsql.json" ⟨File.encode document, 0o644, false⟩).put "users.ts"
    ⟨File.encode flaggedText, 0o600, false⟩

def rootPlace : Place := ⟨"/", "/home/u"⟩

def freshState : State :=
  ⟨settledSource "\x7b\x22no_color\x22: true\x7d".toList, .off, ⟨false, .trueColor⟩⟩

def unheardCall : Call := ⟨["--summary", "users.ts"], [], false⟩

theorem starts_unheard :
    Starts rootPlace freshState unheardCall .standard "users.ts" ⟨false, true, true⟩ := by
  have hparse : (CommandLine.parse Switch.all unheardCall.arguments).toOption =
      some ⟨[(.summary, true)], ["users.ts"]⟩ := by
    decide +kernel
  exact starts_of_toOption (by decide +kernel) hparse rfl rfl rfl (by decide +kernel)

theorem exists_report_settledSource (document : Text) :
    ∃ report, (migrate (settledSource document) "users.ts").result = .ok report :=
  (ends_migrate (settledSource document) "users.ts").ok_iff.2
    ⟨fun _ => nofun, _, Disk.file?_put _, File.isValidUTF8_iff.2 ⟨flaggedText, rfl⟩⟩

end Account

end QueryMigration.Command
