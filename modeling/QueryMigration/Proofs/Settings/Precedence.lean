import QueryMigration.Settings.Load
import QueryMigration.Proofs.Settings.Statements
import QueryMigration.Proofs.SourceFile.Outcome

/-! Which source decides a setting. One that says nothing is passed over: an empty variable, a null,
a refused file. -/

namespace QueryMigration.Settings

open Text

section CommandLines

def Switched (line : CommandLine) (s : Switch) (b : Bool) : Prop :=
  ∃ before after, line.given = before ++ (s, b) :: after ∧ ∀ later ∈ after, later.1 ≠ s

theorem value?_eq_some_iff {line : CommandLine} {s : Switch} {b : Bool} :
    line.value? s = some b ↔ Switched line s b := by
  rw [CommandLine.value?, Option.map_eq_some_iff]
  constructor
  · intro h
    obtain ⟨⟨s', b'⟩, hfind, rfl⟩ := h
    obtain ⟨hs, after, before, hsplit, hafter⟩ := List.find?_eq_some_iff_append.1 hfind
    obtain rfl : s' = s := by simpa using hs
    refine ⟨before.reverse, after.reverse, ?_, fun later hlater => ?_⟩
    · simpa using congrArg List.reverse hsplit
    · simpa using hafter later (List.mem_reverse.1 hlater)
  · intro h
    obtain ⟨before, after, hsplit, hafter⟩ := h
    have hfind : line.given.reverse.find? (·.1 = s) = some (s, b) := by
      refine List.find?_eq_some_iff_append.2 ⟨by simp, after.reverse, before.reverse, ?_, ?_⟩
      · simp [hsplit]
      · intro later hlater
        simpa using hafter later (List.mem_reverse.1 hlater)
    exact ⟨(s, b), hfind, rfl⟩

end CommandLines

section Documents

variable {d : Disk} {place : Place}

def Present (d : Disk) (path : String) : Prop :=
  d.fault ≠ some ⟨.stat, path⟩ ∧ ∃ f, d.file? path = some f ∧ f.folder = false

theorem hasDocument_iff {path : String} : hasDocument d path = true ↔ Present d path := by
  unfold hasDocument
  cases hstat : d.stat path with
  | error e =>
    refine ⟨nofun, fun h => ?_⟩
    obtain ⟨hfault, f, hfile, -⟩ := h
    rw [Disk.stat_eq_ok_iff.2 ⟨hfault, hfile⟩] at hstat
    cases hstat
  | ok f =>
    obtain ⟨hfault, hfile⟩ := Disk.stat_eq_ok_iff.1 hstat
    simp [Present, hfault, hfile]

/-- Whether a settings document is the one in use: the first of the search order that is present,
with the fields that are read from it. -/
structure InUse (d : Disk) (place : Place) (path : String) (fields : List (Text × Document.Node)) :
    Prop where
  first : ∃ before after, documentPaths place = before ++ path :: after ∧
    ∀ earlier ∈ before, ¬ Present d earlier
  present : Present d path
  contents : ∃ f, d.read path = .ok f ∧ Document.parse f.bytes = .ok fields

theorem documentPath?_eq_some_iff {path : String} : documentPath? d place = some path ↔
    Present d path ∧ ∃ before after, documentPaths place = before ++ path :: after ∧
      ∀ earlier ∈ before, ¬ Present d earlier := by
  simp only [documentPath?, List.find?_eq_some_iff_append, hasDocument_iff, Bool.not_eq_true',
    ← Bool.not_eq_true]

theorem documentPath?_eq_none_iff :
    documentPath? d place = none ↔ ∀ path ∈ documentPaths place, ¬ Present d path := by
  simp only [documentPath?, List.find?_eq_none, hasDocument_iff]

theorem InUse.loadDocument_eq {path : String} {fields : List (Text × Document.Node)}
    (h : InUse d place path fields) : loadDocument d place = .ok fields := by
  obtain ⟨f, hread, hparse⟩ := h.contents
  simp only [loadDocument, documentPath?_eq_some_iff.2 ⟨h.present, h.first⟩, hread, hparse]
  rfl

theorem inUse_of_loadDocument {fields : List (Text × Document.Node)}
    (h : loadDocument d place = .ok fields) : (∃ path, InUse d place path fields) ∨
      fields = [] ∧ ∀ path ∈ documentPaths place, ¬ Present d path := by
  unfold loadDocument at h
  cases hpath : documentPath? d place with
  | none =>
    simp only [hpath, Except.ok.injEq] at h
    exact Or.inr ⟨h.symm, documentPath?_eq_none_iff.1 hpath⟩
  | some path =>
    obtain ⟨hpresent, hfirst⟩ := documentPath?_eq_some_iff.1 hpath
    simp only [hpath] at h
    cases hread : d.read path with
    | error e => simp only [hread, reduceCtorEq] at h
    | ok f =>
      simp only [hread] at h
      cases hparse : Document.parse f.bytes with
      | error e =>
        rw [hparse] at h
        cases h
      | ok found =>
        rw [hparse] at h
        cases h
        exact Or.inl ⟨path, hfirst, hpresent, f, hread, hparse⟩

def CaseDistinct (fields : List (Text × Document.Node)) : Prop :=
  (fields.map fun field => field.1.map Char.toLower).Nodup

def Documented (d : Disk) (place : Place) (k : Key) (value : Document.Node) : Prop :=
  ∃ path fields name, InUse d place path fields ∧ (name, value) ∈ fields ∧
    name.map Char.toLower = k.name ∧ value.isNull = false

theorem ofDocument_eq_some_iff {s : Sources} {k : Key} {b : Bool} (h : CaseDistinct s.document) :
    s.ofDocument k = some b ↔ ∃ name value, (name, value) ∈ s.document ∧
      name.map Char.toLower = k.name ∧ value.isNull = false ∧ value.isOn = b := by
  unfold Sources.ofDocument
  constructor
  · intro hsome
    split at hsome
    · rename_i name value hfind
      have hname := List.find?_some hfind
      have hmem := List.mem_of_find?_eq_some hfind
      split at hsome
      · cases hsome
      · rename_i hnull
        cases hsome
        have hfield := List.mem_reverse.1 hmem
        exact ⟨name, value, hfield, by simpa using hname, by simpa using hnull, rfl⟩
    · cases hsome
  · intro hfield
    obtain ⟨name, value, hmem, hname, hnull, rfl⟩ := hfield
    -- The search starts at the end, but no other field has this name.
    have hfind : s.document.reverse.find? (fun e => e.1.map Char.toLower = k.name) =
        some (name, value) := by
      cases hfound : s.document.reverse.find? (fun e => e.1.map Char.toLower = k.name) with
      | none =>
        have hnone := List.find?_eq_none.1 hfound (name, value) (List.mem_reverse.2 hmem)
        simp [hname] at hnone
      | some found =>
        have hsame : found.1.map Char.toLower = k.name := by simpa using List.find?_some hfound
        have hfoundMem := List.mem_reverse.1 (List.mem_of_find?_eq_some hfound)
        rw [List.inj_on_of_nodup_map h hfoundMem hmem (hsame.trans hname.symm)]
    simp [hfind, hnull]

end Documents

section Variables

def Exported (environment : Environment) (k : Key) (v : String) : Prop :=
  Entries.get? k.variableName environment = some v ∧ v ≠ ""

theorem ofEnvironment_eq_some_iff {s : Sources} {k : Key} {b : Bool} :
    s.ofEnvironment k = some b ↔ ∃ v, Exported s.environment k v ∧ isTrue v = b := by
  unfold Sources.ofEnvironment Exported
  cases Entries.get? k.variableName s.environment with
  | none => simp
  | some v =>
    by_cases hempty : v = ""
    · simp [hempty]
    · simp [hempty]

end Variables

section Statements

/-- Whether the local file is read as a whole and the last visited of its statements about a setting
says `b`. -/
def Stated (d : Disk) (visit : Visiting) (k : Key) (b : Bool) : Prop :=
  ∃ f statements, d.read statementsPath = .ok f ∧ DotEnv.parse f.bytes = .ok statements ∧
    Sources.LastSays k (visit.order statements) b

/-- Whether the local file has nothing to say about settings: it is absent, it is refused, or none
of its names begins as those of settings do. -/
def Speechless (d : Disk) : Prop :=
  (∃ e, d.read statementsPath = .error e) ∨ ∃ f, d.read statementsPath = .ok f ∧
    ((∃ e, DotEnv.parse f.bytes = .error e) ∨ ∃ statements,
      DotEnv.parse f.bytes = .ok statements ∧
        ∀ statement ∈ statements, ¬ Sources.statementStem <+: statement.1)

theorem Speechless.not_stated {d : Disk} (h : Speechless d) (visit : Visiting) (k : Key) (b : Bool) :
    ¬ Stated d visit k b := by
  intro hstated
  obtain ⟨f, statements, hread, hparse, before, last, after, hsplit, hlast, -⟩ := hstated
  rcases h with ⟨e, herror⟩ | ⟨f', hread', ⟨e, herror⟩ | ⟨statements', hparse', hstem⟩⟩
  · rw [hread] at herror
    cases herror
  · obtain rfl := Except.ok.inj (hread.symm.trans hread')
    rw [hparse] at herror
    cases herror
  · obtain rfl := Except.ok.inj (hread.symm.trans hread')
    obtain rfl := Except.ok.inj (hparse.symm.trans hparse')
    have hmem : last ∈ statements := (visit.perm statements).mem_iff.1 (by simp [hsplit])
    refine hstem last hmem ?_
    cases hlast with
    | value _ => exact List.prefix_append _ _
    | below _ => exact List.prefix_append _ _

def knownStatements (d : Disk) : Entries Text Text := (loadStatements d).toOption.getD []

theorem lastSays_knownStatements_iff {d : Disk} {visit : Visiting} {k : Key} {b : Bool} :
    Sources.LastSays k (visit.order (knownStatements d)) b ↔ Stated d visit k b := by
  have hnil : ¬ Sources.LastSays k (visit.order []) b := by
    intro h
    obtain ⟨before, last, after, hsplit, -⟩ := h
    simp [(visit.perm []).eq_nil] at hsplit
  unfold knownStatements loadStatements Stated
  cases hread : d.read statementsPath with
  | error e => simpa [Except.toOption] using hnil
  | ok f =>
    cases hparse : DotEnv.parse f.bytes with
    | error e => simpa [Except.toOption, hparse] using hnil
    | ok statements => simp [Except.toOption, hparse]

end Statements

section Precedence

variable {d : Disk} {place : Place} {environment : Environment} {line : CommandLine}
  {visit : Visiting}

def value (settings : Settings) : Key → Bool
  | .debug => settings.debug
  | .noColor => settings.noColor
  | .summary => settings.summary

theorem value_ofSources (s : Sources) (k : Key) : (ofSources s).value k = s.resolve k := by
  cases k with
  | debug => rfl
  | noColor => rfl
  | summary => rfl

/-- The first source that mentions a setting decides it. -/
inductive Decides (d : Disk) (place : Place) (environment : Environment) (line : CommandLine)
    (visit : Visiting) (k : Key) : Bool → Prop
  | line {b : Bool} (switched : Switched line k.switch b) :
      Decides d place environment line visit k b
  | environment {v : String} (unswitched : ∀ b, ¬ Switched line k.switch b)
      (exported : Exported environment k v) : Decides d place environment line visit k (isTrue v)
  | document {value : Document.Node} (unswitched : ∀ b, ¬ Switched line k.switch b)
      (unexported : ∀ v, ¬ Exported environment k v) (documented : Documented d place k value) :
      Decides d place environment line visit k value.isOn
  | statements {b : Bool} (unswitched : ∀ b, ¬ Switched line k.switch b)
      (unexported : ∀ v, ¬ Exported environment k v)
      (undocumented : ∀ value, ¬ Documented d place k value) (stated : Stated d visit k b) :
      Decides d place environment line visit k b
  | nothing (unswitched : ∀ b, ¬ Switched line k.switch b)
      (unexported : ∀ v, ¬ Exported environment k v)
      (undocumented : ∀ value, ¬ Documented d place k value) (unstated : ∀ b, ¬ Stated d visit k b) :
      Decides d place environment line visit k false

theorem exists_decides (d : Disk) (place : Place) (environment : Environment) (line : CommandLine)
    (visit : Visiting) (k : Key) : ∃ b, Decides d place environment line visit k b := by
  by_cases hswitched : ∃ b, Switched line k.switch b
  · obtain ⟨b, hswitched⟩ := hswitched
    exact ⟨b, .line hswitched⟩
  · have hswitched := not_exists.1 hswitched
    by_cases hexported : ∃ v, Exported environment k v
    · obtain ⟨v, hexported⟩ := hexported
      exact ⟨_, .environment hswitched hexported⟩
    · have hexported := not_exists.1 hexported
      by_cases hdocumented : ∃ value, Documented d place k value
      · obtain ⟨value, hdocumented⟩ := hdocumented
        exact ⟨_, .document hswitched hexported hdocumented⟩
      · have hdocumented := not_exists.1 hdocumented
        by_cases hstated : ∃ b, Stated d visit k b
        · obtain ⟨b, hstated⟩ := hstated
          exact ⟨b, .statements hswitched hexported hdocumented hstated⟩
        · exact ⟨false, .nothing hswitched hexported hdocumented (not_exists.1 hstated)⟩

def sourcesOf (d : Disk) (environment : Environment) (line : CommandLine) (visit : Visiting)
    (fields : List (Text × Document.Node)) : Sources :=
  ⟨line, environment, fields, visit.order (knownStatements d)⟩

theorem load_result (d : Disk) (place : Place) (environment : Environment) (line : CommandLine)
    (visit : Visiting) : (load d place environment line visit).result =
      (loadDocument d place).map fun fields =>
        ofSources (sourcesOf d environment line visit fields) := by
  unfold load sourcesOf knownStatements
  cases loadStatements d with
  | error e => rfl
  | ok statements => rfl

theorem exists_fields_of_load {settings : Settings}
    (h : (load d place environment line visit).result = .ok settings) :
    ∃ fields, loadDocument d place = .ok fields ∧
      settings = ofSources (sourcesOf d environment line visit fields) := by
  rw [load_result] at h
  cases hdocument : loadDocument d place with
  | error e =>
    rw [hdocument] at h
    cases h
  | ok fields =>
    rw [hdocument] at h
    exact ⟨fields, rfl, (Except.ok.inj h).symm⟩

theorem exists_documented_iff {fields : List (Text × Document.Node)} {k : Key} {b : Bool}
    (h : loadDocument d place = .ok fields) :
    (∃ value, Documented d place k value ∧ value.isOn = b) ↔ ∃ name value, (name, value) ∈ fields ∧
      name.map Char.toLower = k.name ∧ value.isNull = false ∧ value.isOn = b := by
  constructor
  · intro hdocumented
    obtain ⟨value, ⟨path, fields', name, hinUse, hmem, hname, hnull⟩, hon⟩ := hdocumented
    obtain rfl := Except.ok.inj (hinUse.loadDocument_eq.symm.trans h)
    exact ⟨name, value, hmem, hname, hnull, hon⟩
  · intro hfield
    obtain ⟨name, value, hmem, hname, hnull, hon⟩ := hfield
    rcases inUse_of_loadDocument h with ⟨path, hinUse⟩ | ⟨rfl, -⟩
    · exact ⟨value, ⟨path, fields, name, hinUse, hmem, hname, hnull⟩, hon⟩
    · cases hmem

/-- Whether a source mentions a setting exactly where something satisfies `p`, and gives it the
value of that. -/
def Tells {α : Type} (source : Option Bool) (p : α → Prop) (value : α → Bool) : Prop :=
  ∀ b, source = some b ↔ ∃ a, p a ∧ value a = b

theorem tells_id {source : Option Bool} {p : Bool → Prop} (h : ∀ b, source = some b ↔ p b) :
    Tells source p id := fun b => (h b).trans (by simp)

theorem Tells.eq_some {α : Type} {source : Option Bool} {p : α → Prop} {value : α → Bool}
    (h : Tells source p value) {a : α} (ha : p a) : source = some (value a) :=
  (h (value a)).2 ⟨a, ha, rfl⟩

theorem Tells.eq_none {α : Type} {source : Option Bool} {p : α → Prop} {value : α → Bool}
    (h : Tells source p value) (hnot : ∀ a, ¬ p a) : source = none := by
  refine Option.eq_none_iff_forall_ne_some.2 fun b hb => ?_
  obtain ⟨a, ha, -⟩ := (h b).1 hb
  exact hnot a ha

/-- What decides a setting is what the sources of the run come to. -/
theorem Decides.resolve_eq {fields : List (Text × Document.Node)} {k : Key} {b : Bool}
    (hfields : loadDocument d place = .ok fields) (hcase : CaseDistinct fields)
    (h : Decides d place environment line visit k b) :
    (sourcesOf d environment line visit fields).resolve k = b := by
  have hline : Tells ((sourcesOf d environment line visit fields).ofLine k)
      (Switched line k.switch) id := tells_id fun _ => value?_eq_some_iff
  have henvironment : Tells ((sourcesOf d environment line visit fields).ofEnvironment k)
      (Exported environment k) isTrue := fun _ => ofEnvironment_eq_some_iff
  have hdocument : Tells ((sourcesOf d environment line visit fields).ofDocument k)
      (Documented d place k) Document.Node.isOn := fun _ =>
    (ofDocument_eq_some_iff hcase).trans (exists_documented_iff hfields).symm
  have hstatements : Tells ((sourcesOf d environment line visit fields).ofStatements k)
      (Stated d visit k) id :=
    tells_id fun _ => Sources.ofStatements_eq_some_iff.trans lastSays_knownStatements_iff
  unfold Sources.resolve
  cases h with
  | line switched =>
    rw [hline.eq_some switched]
    rfl
  | environment unswitched exported =>
    rw [hline.eq_none unswitched, henvironment.eq_some exported]
    rfl
  | document unswitched unexported documented =>
    rw [hline.eq_none unswitched, henvironment.eq_none unexported, hdocument.eq_some documented]
    rfl
  | statements unswitched unexported undocumented stated =>
    rw [hline.eq_none unswitched, henvironment.eq_none unexported, hdocument.eq_none undocumented,
      hstatements.eq_some stated]
    rfl
  | nothing unswitched unexported undocumented unstated =>
    rw [hline.eq_none unswitched, henvironment.eq_none unexported, hdocument.eq_none undocumented,
      hstatements.eq_none unstated]
    rfl

/-- Whatever the order in which statements are visited, a setting has the value that the first source
to mention it decides, and is off where the local file would decide but has nothing to say. -/
theorem value_eq_iff_decides {settings : Settings}
    (hload : (load d place environment line visit).result = .ok settings)
    (hcase : ∀ path fields, InUse d place path fields → CaseDistinct fields) (k : Key) :
    (∀ b, settings.value k = b ↔ Decides d place environment line visit k b) ∧
      ((∀ b, ¬ Switched line k.switch b) → (∀ v, ¬ Exported environment k v) →
        (∀ value, ¬ Documented d place k value) → Speechless d → settings.value k = false) := by
  obtain ⟨fields, hfields, rfl⟩ := exists_fields_of_load hload
  have hdistinct : CaseDistinct fields := by
    rcases inUse_of_loadDocument hfields with ⟨path, hinUse⟩ | ⟨rfl, -⟩
    · exact hcase path fields hinUse
    · exact List.nodup_nil
  rw [value_ofSources]
  have hdecides {b : Bool} (h : Decides d place environment line visit k b) :
      (sourcesOf d environment line visit fields).resolve k = b := h.resolve_eq hfields hdistinct
  refine ⟨fun b => ⟨fun hvalue => ?_, hdecides⟩, fun hline henvironment hdocument hspeechless => ?_⟩
  · obtain ⟨c, hc⟩ := exists_decides d place environment line visit k
    rw [← hvalue, hdecides hc]
    exact hc
  · exact hdecides (.nothing hline henvironment hdocument (hspeechless.not_stated visit k))

/-- A disk whose two documents and local file contradict each other. The local file starts with a name
that is no UTF-8, and then contradicts itself. -/
def contradictingDisk : Disk :=
  ((Disk.empty.put "/.fixsql.yaml"
    ⟨File.encode "\x7bno_color: ~, Summary: 0\x7d".toList, 0o644, false⟩).put "/home/u/.fixsql.yaml"
    ⟨File.encode "summary: true".toList, 0o644, false⟩).put ".env"
    ⟨⟨#[0xc9, 0x3d, 0x0a]⟩ ++
      File.encode "FIXSQL_NO_COLOR=1\nFIXSQL_no_color=0\nFIXSQL_SUMMARY=true\n".toList, 0o644, false⟩

def contradictingVariables : Environment := [("FIXSQL_DEBUG", "true"), ("FIXSQL_SUMMARY", "")]

def contradictingLine : CommandLine := ⟨[(.debug, true), (.debug, false)], []⟩

def Visiting.reversed : Visiting := ⟨List.reverse, List.reverse_perm⟩

def ContradictingDecides (visit : Visiting) (k : Key) (b : Bool) : Prop :=
  Decides contradictingDisk ⟨"/", "/home/u"⟩ contradictingVariables contradictingLine visit k b

/-- The settings of such a run come from three sources: the command line turns debugging off, the
null leaves colours to the local file, and the number in the first document turns the summary off. In
the local file the statement that is visited last counts, here the first one. -/
theorem value_eq_iff_decides_contradicting :
    (load contradictingDisk ⟨"/", "/home/u"⟩ contradictingVariables contradictingLine
        .reversed).result = .ok ⟨false, true, false⟩ ∧
      ContradictingDecides .reversed .debug false ∧ ContradictingDecides .reversed .noColor true ∧
      ContradictingDecides .reversed .summary false := by
  have hload : (load contradictingDisk ⟨"/", "/home/u"⟩ contradictingVariables contradictingLine
      .reversed).result = .ok ⟨false, true, false⟩ :=
    eq_ok_of_toOption (by decide +kernel)
  have hnames : (loadDocument contradictingDisk ⟨"/", "/home/u"⟩).toOption.map
      (List.map fun field => field.1.map Char.toLower) =
        some ["no_color".toList, "summary".toList] := by
    decide +kernel
  have hcase (path : String) (fields : List (Text × Document.Node))
      (h : InUse contradictingDisk ⟨"/", "/home/u"⟩ path fields) : CaseDistinct fields := by
    rw [h.loadDocument_eq] at hnames
    rw [CaseDistinct, Option.some.inj hnames]
    decide
  have hdecides := value_eq_iff_decides hload hcase
  exact ⟨hload, ((hdecides .debug).1 false).1 rfl, ((hdecides .noColor).1 true).1 rfl,
    ((hdecides .summary).1 false).1 rfl⟩

def Visiting.replacing (statements visited : Entries Text Text) (h : statements.Perm visited) :
    Visiting where
  order entries := if entries = statements then visited else entries
  perm entries := by
    split
    · rename_i hsame
      rw [hsame]
      exact h.symm
    · exact .refl entries

/-- A run gives the same settings in whatever order its statements are visited exactly if the order
is free for its sources. -/
theorem load_eq_iff_orderFree {fields : List (Text × Document.Node)}
    (hfields : loadDocument d place = .ok fields) :
    (∀ visit, (load d place environment line visit).result = (load d place environment line).result) ↔
      (sourcesOf d environment line .asWritten fields).OrderFree := by
  simp only [load_result, hfields]
  constructor
  · intro h visited hperm
    have hvisited : ofSources (sourcesOf d environment line (.replacing _ visited hperm) fields) =
        ofSources (sourcesOf d environment line .asWritten fields) := Except.ok.inj (h _)
    rw [← hvisited]
    simp [sourcesOf, Visiting.replacing, Visiting.asWritten]
  · intro hfree visit
    exact congrArg Except.ok (hfree _ (visit.perm (knownStatements d)).symm)

end Precedence

end QueryMigration.Settings
