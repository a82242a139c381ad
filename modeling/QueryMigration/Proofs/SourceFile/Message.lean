import QueryMigration.Proofs.Log.Line
import QueryMigration.Proofs.SourceFile.Outcome

/-! Messages and records about a migration end in fixed words or in a number, whatever the path. -/

namespace QueryMigration.Path

variable {s : String}

theorem mem_of_mem_follow {rooted : Bool} {walked : List Text} {part p : Text}
    (h : p ∈ follow rooted walked part) : p ∈ walked ∨ p = part := by
  unfold follow at h
  grind

theorem mem_of_mem_foldl_follow {rooted : Bool} {parts walked : List Text} {p : Text}
    (h : p ∈ parts.foldl (follow rooted) walked) : p ∈ walked ∨ p ∈ parts := by
  induction parts generalizing walked with
  | nil => exact Or.inl h
  | cons part parts ih =>
    rcases ih h with h | h
    · rcases mem_of_mem_follow h with h | rfl
      · exact Or.inl h
      · exact Or.inr List.mem_cons_self
    · exact Or.inr (List.mem_cons_of_mem part h)

theorem mem_splitOn_of_mem_parts {p : Text} (h : p ∈ (ofString s).parts) :
    p ∈ s.toList.splitOn '/' := by
  simp only [ofString, ofWalked] at h
  split at h
  · simp [root] at h
  · exact (mem_of_mem_foldl_follow (List.mem_reverse.1 h)).resolve_left List.not_mem_nil

theorem mem_of_mem_toString {c : Char} (h : c ∈ (ofString s).toString.toList) :
    c = '/' ∨ c ∈ s.toList := by
  rw [toString, String.toList_ofList, List.mem_append] at h
  rcases h with h | h
  · split at h
    · exact Or.inl (List.mem_singleton.1 h)
    · simp at h
  · rcases Text.mem_of_mem_intercalate h with h | ⟨p, hp, hc⟩
    · exact Or.inl h
    · exact Or.inr (Text.mem_of_mem_splitOn (mem_splitOn_of_mem_parts hp) hc)

end QueryMigration.Path

namespace QueryMigration

def EndsPlain (s : String) : Prop := ∃ c, s.toList.getLast? = some c ∧ c.isAlphanum = true

theorem EndsPlain.append {t : String} (h : EndsPlain t) (s : String) : EndsPlain (s ++ t) := by
  obtain ⟨c, hlast, hc⟩ := h
  refine ⟨c, ?_, hc⟩
  rw [String.toList_append, List.getLast?_append, hlast, Option.some_or]

theorem DiskError.endsPlain_message (e : DiskError) : EndsPlain e.message := by
  cases e with
  | missing verb path => exact EndsPlain.append ⟨'t', by decide, rfl⟩ _
  | denied access path => exact EndsPlain.append ⟨'d', by decide, rfl⟩ _

theorem notMem_append {c : Char} {s t : String} (hs : c ∉ s.toList) (ht : c ∉ t.toList) :
    c ∉ (s ++ t).toList := by
  rw [String.toList_append, List.mem_append, not_or]
  exact ⟨hs, ht⟩

theorem DiskError.lineFeed_notMem_denied (access : Access) {path : String}
    (hpath : '\n' ∉ path.toList) : '\n' ∉ (denied access path).message.toList := by
  have haccess : '\n' ∉ access.name.toList := by cases access <;> decide
  exact notMem_append (notMem_append (notMem_append haccess (by decide)) hpath) (by decide +kernel)

end QueryMigration

namespace QueryMigration.Disk

variable {d : Disk} {path : String}

theorem eq_of_permit_fetch_eq_error {access : Access} {verb : String} {e : DiskError}
    (h : (do d.permit access path; d.fetch verb path) = .error e) :
    e = .denied access path ∨ e = .missing verb (Path.ofString path) := by
  unfold permit fetch at h
  split at h
  · exact Or.inl (Except.error.inj h).symm
  · simp only [bind, Except.bind] at h
    split at h
    · cases h
    · exact Or.inr (Except.error.inj h).symm

theorem lineFeed_notMem_message {access : Access} {e : DiskError} (hpath : '\n' ∉ path.toList)
    (h : (do d.permit access path; d.fetch "open" path) = .error e) : '\n' ∉ e.message.toList := by
  rcases eq_of_permit_fetch_eq_error h with rfl | rfl
  · exact DiskError.lineFeed_notMem_denied access hpath
  · have hshown : '\n' ∉ (Path.ofString path).toString.toList := by
      intro hfeed
      rcases Path.mem_of_mem_toString hfeed with h | h
      · exact absurd h (by decide)
      · exact hpath h
    exact notMem_append (notMem_append (by decide) hshown) (by decide +kernel)

end QueryMigration.Disk

namespace QueryMigration.SourceFile

open Text Log

variable {d d' : Disk} {path : String}

theorem Failure.endsPlain_message (e : Failure) : EndsPlain e.message := by
  cases e with
  | stat path cause => exact cause.endsPlain_message.append _
  | read path cause => exact cause.endsPlain_message.append _
  | decode path => exact EndsPlain.append ⟨'8', by decide, rfl⟩ _
  | write path cause => exact cause.endsPlain_message.append _

theorem Ends.lineFeed_notMem_message {e : Failure} (h : Ends d path d' (.error e))
    (hpath : '\n' ∉ path.toList) : '\n' ∉ e.message.toList := by
  have htold {words : String} {cause : DiskError} (hwords : '\n' ∉ words.toList)
      (hcause : '\n' ∉ cause.message.toList) :
      '\n' ∉ (words ++ path ++ ": " ++ cause.message).toList :=
    notMem_append (notMem_append (notMem_append hwords hpath) (by decide)) hcause
  cases h with
  | stat hstat => exact htold (by decide) (Disk.lineFeed_notMem_message hpath hstat)
  | read _ hread => exact htold (by decide) (Disk.lineFeed_notMem_message hpath hread)
  | decode => exact notMem_append (notMem_append (by decide) hpath) (by decide +kernel)
  | write => exact htold (by decide) (DiskError.lineFeed_notMem_denied .write hpath)

theorem exists_pass_of_mem_stages {passes : List Pass} {t : Text} {stage : Pass.Stage}
    (h : stage ∈ Pass.stages passes t) : ∃ p ∈ passes, p.name = stage.name := by
  induction passes generalizing t with
  | nil => simp [Pass.stages] at h
  | cons p passes ih =>
    cases List.mem_cons.1 h with
    | inl hfirst => exact ⟨p, List.mem_cons_self, by rw [hfirst]⟩
    | inr hlater =>
      obtain ⟨q, hq, hname⟩ := ih hlater
      exact ⟨q, List.mem_cons_of_mem p hq, hname⟩

theorem exists_pass_of_mem_changes {report : Report} (h : (migrate d path).result = .ok report)
    {c : Change} (hc : c ∈ report.changes) : ∃ p ∈ Pass.migration, p.name = c.pass := by
  have hends := ends_migrate d path
  rw [h] at hends
  obtain ⟨old, new, t, -, rfl⟩ := hends.rewritten_of_ok
  obtain ⟨stage, hstage, rfl⟩ := List.mem_map.1 hc
  exact exists_pass_of_mem_stages hstage

theorem unquoted_transferRecord (message path : String) (size : Nat) :
    Unquoted (transferRecord message path size).line := by
  refine Record.unquoted_line .debug message [⟨"path", .text path⟩] ?_ ?_
  · simp
  · exact notMem_repr (by decide) (by decide) size

theorem unquoted_passRecord (c : Change) : Unquoted (passRecord c).line := by
  refine Record.unquoted_line .debug "pass applied" [⟨"pass", .text c.pass⟩] ?_ ?_
  · simp
  · exact notMem_repr (by decide) (by decide) c.lines

/-- No line about a migration ends in a quote mark, whatever the path. -/
theorem unquoted_records (d : Disk) (path : String) :
    ∀ r ∈ (migrate d path).records, Unquoted r.line := by
  have hpasses (changes : List Change) : ∀ r ∈ changes.map passRecord, Unquoted r.line := by
    intro r hr
    obtain ⟨c, -, rfl⟩ := List.mem_map.1 hr
    exact unquoted_passRecord c
  -- As long as the text is not known there is nothing to log.
  unfold migrate
  split
  · simp
  · split
    · simp
    · split
      · simp
      · dsimp only
        split
        · exact List.forall_mem_cons.2 ⟨unquoted_transferRecord _ _ _, hpasses _⟩
        · refine List.forall_mem_append.2 ⟨?_, ?_⟩
          · exact List.forall_mem_cons.2 ⟨unquoted_transferRecord _ _ _, hpasses _⟩
          · exact List.forall_mem_singleton.2 (unquoted_transferRecord _ _ _)

end QueryMigration.SourceFile
