import QueryMigration.Proofs.Command.Outcome

/-! What becomes of a file depends on what the disk says about it and on nothing else of a run. -/

namespace QueryMigration.Disk

/-- Whether two disks agree about a path: its bytes, its mode and the accesses that are denied. -/
structure AgreeAt (path : String) (d₁ d₂ : Disk) : Prop where
  contents : (d₁.file? path).map (fun f => (f.bytes, f.mode)) =
    (d₂.file? path).map (fun f => (f.bytes, f.mode))
  faults : ∀ access, d₁.fault = some ⟨access, path⟩ ↔ d₂.fault = some ⟨access, path⟩

variable {d₁ d₂ : Disk} {path : String}

theorem AgreeAt.of_file? {f₁ f₂ : File} (h : AgreeAt path d₁ d₂) (h₁ : d₁.file? path = some f₁)
    (h₂ : d₂.file? path = some f₂) : f₁.bytes = f₂.bytes ∧ f₁.mode = f₂.mode := by
  have hcontents := h.contents
  rw [h₁, h₂] at hcontents
  exact Prod.mk.inj (Option.some.inj hcontents)

theorem AgreeAt.permit_eq (h : AgreeAt path d₁ d₂) (access : Access) :
    d₁.permit access path = d₂.permit access path := by
  simp only [permit, h.faults access]

def Alike (x y : Except DiskError File) : Prop :=
  (∃ e, x = .error e ∧ y = .error e) ∨ ∃ f g, x = .ok f ∧ y = .ok g ∧ f.bytes = g.bytes

theorem AgreeAt.alike (h : AgreeAt path d₁ d₂) (access : Access) (verb : String) :
    Alike (do d₁.permit access path; d₁.fetch verb path)
      (do d₂.permit access path; d₂.fetch verb path) := by
  rw [← h.permit_eq access]
  cases d₁.permit access path with
  | error e => exact Or.inl ⟨e, rfl, rfl⟩
  | ok u =>
    have hcontents := h.contents
    simp only [bind, Except.bind, fetch]
    cases h₁ : d₁.file? path with
    | none =>
      cases h₂ : d₂.file? path with
      | none => exact Or.inl ⟨_, rfl, rfl⟩
      | some f₂ => simp [h₁, h₂] at hcontents
    | some f₁ =>
      cases h₂ : d₂.file? path with
      | none => simp [h₁, h₂] at hcontents
      | some f₂ => exact Or.inr ⟨f₁, f₂, rfl, rfl, (h.of_file? h₁ h₂).1⟩

theorem AgreeAt.stat (h : AgreeAt path d₁ d₂) : Alike (d₁.stat path) (d₂.stat path) :=
  h.alike .stat "open"

theorem AgreeAt.read (h : AgreeAt path d₁ d₂) : Alike (d₁.read path) (d₂.read path) :=
  h.alike .read "open"

theorem AgreeAt.write (h : AgreeAt path d₁ d₂) (bytes : ByteArray) (mode₁ mode₂ : Nat) :
    (∃ e, d₁.write path bytes mode₁ = .error e ∧ d₂.write path bytes mode₂ = .error e) ∨
      ∃ d₁' d₂', d₁.write path bytes mode₁ = .ok d₁' ∧ d₂.write path bytes mode₂ = .ok d₂' := by
  simp only [Disk.write, ← h.permit_eq .write]
  cases d₁.permit .write path with
  | error e => exact Or.inl ⟨e, rfl, rfl⟩
  | ok u => exact Or.inr ⟨_, _, rfl, rfl⟩

end QueryMigration.Disk

namespace QueryMigration.SourceFile

open Disk

variable {d₁ d₂ : Disk} {path : String}

theorem result_eq_of_agreeAt (h : AgreeAt path d₁ d₂) :
    (migrate d₁ path).result = (migrate d₂ path).result := by
  rcases h.stat with ⟨e, hstat₁, hstat₂⟩ | ⟨found₁, found₂, hstat₁, hstat₂, -⟩
  · simp only [migrate, hstat₁, hstat₂]
  · rcases h.read with ⟨e, hread₁, hread₂⟩ | ⟨f₁, f₂, hread₁, hread₂, hbytes⟩
    · simp only [migrate, hstat₁, hstat₂, hread₁, hread₂]
    · have htext : f₁.text? = f₂.text? := by rw [File.text?, File.text?, hbytes]
      simp only [migrate, hstat₁, hstat₂, hread₁, hread₂, htext]
      cases f₂.text? with
      | none => rfl
      | some t =>
        rcases h.write (File.encode (Pass.output Pass.migration t)) found₁.mode found₂.mode with
          ⟨e, hwrite₁, hwrite₂⟩ | ⟨d₁', d₂', hwrite₁, hwrite₂⟩
        · simp only [hwrite₁, hwrite₂]
        · simp only [hwrite₁, hwrite₂]

theorem Rewritten.eq_of_agreeAt {d₁' d₂' : Disk} {old₁ new₁ old₂ new₂ : File} {t₁ t₂ : Text}
    (h₁ : Rewritten d₁ path d₁' old₁ new₁ t₁) (h₂ : Rewritten d₂ path d₂' old₂ new₂ t₂)
    (hagree : AgreeAt path d₁ d₂) : new₁.bytes = new₂.bytes ∧ new₁.mode = new₂.mode := by
  obtain ⟨hbytes, hmode⟩ := hagree.of_file? h₁.before h₂.before
  have ht : t₁ = t₂ := by
    have htext : old₁.text? = old₂.text? := by rw [File.text?, File.text?, hbytes]
    rw [h₁.decoded, h₂.decoded] at htext
    exact Option.some.inj htext
  exact ⟨by rw [h₁.bytes, h₂.bytes, ht], by rw [h₁.mode, h₂.mode, hmode]⟩

end QueryMigration.SourceFile

namespace QueryMigration.Command

open Settings Terminal SourceFile Disk

/-- Whether a run ends with the failure of a migration, which it reports, and leaves the disk as it
was. -/
def FailsWith (place : Place) (state : State) (call : Call) (host : Host) (path : String)
    (e : Failure) : Prop :=
  (migrate state.disk path).result = .error e ∧ (run place state call host).1.disk = state.disk ∧
    ∃ style written, (run place state call host).2 = failing call style [] written (.file e)

def Leaves (place : Place) (state : State) (call : Call) (host : Host) (path : String)
    (file : File) : Prop :=
  (∃ report, (migrate state.disk path).result = .ok report) ∧
    (run place state call host).1.disk.file? path = some file

variable {place place₁ place₂ : Place} {state state₁ state₂ : State} {call call₁ call₂ : Call}
  {host host₁ host₂ : Host} {path : String} {settings settings₁ settings₂ : Settings}

theorem Starts.failsWith {e : Failure} (h : Starts place state call host path settings)
    (hfile : (migrate state.disk path).result = .error e) : FailsWith place state call host path e := by
  obtain ⟨line, names, hload⟩ := h
  rw [FailsWith, (Ends.failed names hload hfile).run_eq]
  exact ⟨hfile, afterwards_of_error hfile, _, _, rfl⟩

theorem Starts.exists_leaves {report : Report} (h : Starts place state call host path settings)
    (hfile : (migrate state.disk path).result = .ok report) :
    ∃ old new t, Rewritten state.disk path (migrate state.disk path).disk old new t ∧
      Leaves place state call host path new := by
  have hends := ends_migrate state.disk path
  rw [hfile] at hends
  obtain ⟨old, new, t, hrewritten, -⟩ := hends.rewritten_of_ok
  have hcompletes : Completes place state call host path settings := ⟨h, report, hfile⟩
  obtain ⟨exitCode, stderr, hrun, -⟩ := hcompletes.run_eq
  refine ⟨old, new, t, hrewritten, ⟨report, hfile⟩, ?_⟩
  rw [hrun]
  exact hrewritten.after

/-- Settings never influence a migration. Two runs that come to migrate the file at the same path, on
disks that agree about it, fail with the same error and leave their disks alone, or leave the same
bytes and mode at the path. -/
theorem settings_never_influence_migration (h₁ : Starts place₁ state₁ call₁ host₁ path settings₁)
    (h₂ : Starts place₂ state₂ call₂ host₂ path settings₂)
    (hagree : AgreeAt path state₁.disk state₂.disk) :
    (∃ e, FailsWith place₁ state₁ call₁ host₁ path e ∧ FailsWith place₂ state₂ call₂ host₂ path e) ∨
      ∃ file₁ file₂, Leaves place₁ state₁ call₁ host₁ path file₁ ∧
        Leaves place₂ state₂ call₂ host₂ path file₂ ∧
          file₁.bytes = file₂.bytes ∧ file₁.mode = file₂.mode := by
  have hresult := result_eq_of_agreeAt hagree
  cases hfile : (migrate state₂.disk path).result with
  | error e =>
    rw [hfile] at hresult
    exact Or.inl ⟨e, h₁.failsWith hresult, h₂.failsWith hfile⟩
  | ok report =>
    rw [hfile] at hresult
    obtain ⟨old₁, new₁, t₁, hrewritten₁, hleaves₁⟩ := h₁.exists_leaves hresult
    obtain ⟨old₂, new₂, t₂, hrewritten₂, hleaves₂⟩ := h₂.exists_leaves hfile
    exact Or.inr ⟨new₁, new₂, hleaves₁, hleaves₂, hrewritten₁.eq_of_agreeAt hrewritten₂ hagree⟩

def debuggedState : State :=
  ⟨settledSource "\x7b\x22debug\x22: true\x7d".toList, ⟨true⟩, ⟨true, .ascii⟩⟩

def quietCall : Call := ⟨["users.ts"], [("FIXSQL_SUMMARY", "0")], true⟩

theorem starts_debugged :
    Starts rootPlace debuggedState quietCall .standard "users.ts" ⟨true, false, false⟩ := by
  have hparse : (CommandLine.parse Switch.all quietCall.arguments).toOption =
      some ⟨[], ["users.ts"]⟩ := by
    decide +kernel
  exact starts_of_toOption (by decide +kernel) hparse rfl rfl rfl (by decide +kernel)

theorem agreeAt_settledSource (document₁ document₂ : Text) :
    AgreeAt "users.ts" (settledSource document₁) (settledSource document₂) where
  contents := by rw [settledSource, settledSource, file?_put, file?_put]
  faults := fun _ => Iff.rfl

/-- Two runs under opposite settings that leave the same file. -/
theorem settings_never_influence_migration_debugged :
    Starts rootPlace freshState unheardCall .standard "users.ts" ⟨false, true, true⟩ ∧
      Starts rootPlace debuggedState quietCall .standard "users.ts" ⟨true, false, false⟩ ∧
      ∃ file₁ file₂, Leaves rootPlace freshState unheardCall .standard "users.ts" file₁ ∧
        Leaves rootPlace debuggedState quietCall .standard "users.ts" file₂ ∧
          file₁.bytes = file₂.bytes ∧ file₁.mode = file₂.mode := by
  refine ⟨starts_unheard, starts_debugged, ?_⟩
  cases settings_never_influence_migration starts_unheard starts_debugged
      (agreeAt_settledSource _ _) with
  | inl hfails =>
    obtain ⟨e, ⟨hfile, -⟩, -⟩ := hfails
    obtain ⟨report, hreport⟩ := exists_report_settledSource _
    exact absurd (hfile.symm.trans hreport) nofun
  | inr hleaves => exact hleaves

end QueryMigration.Command
