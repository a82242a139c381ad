import QueryMigration.Proofs.Pass.Lasting
import QueryMigration.SourceFile

/-! The migration of a file ends in one of four failures, with the disk as it was, or in the
migrated file. -/

namespace QueryMigration

theorem eq_ok_of_toOption {ε α : Type} {x : Except ε α} {a : α} (h : x.toOption = some a) :
    x = .ok a := by
  cases x with
  | error e => cases h
  | ok b => rw [Option.some.inj h]

end QueryMigration

namespace QueryMigration.File

theorem encode_inj {s t : Text} : encode s = encode t ↔ s = t := by
  rw [encode, encode, String.toUTF8, String.toUTF8, String.toByteArray_inj, String.ofList_inj]

theorem isValidUTF8_iff {bytes : ByteArray} : bytes.IsValidUTF8 ↔ ∃ t, bytes = encode t := by
  constructor
  · intro h
    obtain ⟨t, rfl⟩ := h
    exact ⟨t, String.toByteArray_ofList.symm⟩
  · intro h
    obtain ⟨t, rfl⟩ := h
    exact (String.ofList t).isValidUTF8

theorem text?_eq_some_iff {f : File} {t : Text} : f.text? = some t ↔ f.bytes = encode t := by
  unfold text? String.fromUTF8?
  split
  · rw [Option.map_some, Option.some.injEq, ← String.ofList_inj, String.ofList_toList,
      ← String.toByteArray_inj]
    rfl
  · rename_i hvalid
    simp only [Option.map_none, reduceCtorEq, false_iff]
    intro h
    exact hvalid (isValidUTF8_iff.2 ⟨t, h⟩)

theorem text?_eq_none_iff {f : File} : f.text? = none ↔ ¬ f.bytes.IsValidUTF8 := by
  rw [isValidUTF8_iff, Option.eq_none_iff_forall_ne_some]
  simp only [ne_eq, text?_eq_some_iff, not_exists]

end QueryMigration.File

namespace QueryMigration.Disk

variable {d : Disk} {path : String}

theorem permit_eq_ok_iff {access : Access} :
    d.permit access path = .ok () ↔ d.fault ≠ some ⟨access, path⟩ := by
  unfold permit
  split
  · simp [*]
  · simp [*]

theorem fetch_eq_ok_iff (verb : String) {f : File} :
    d.fetch verb path = .ok f ↔ d.file? path = some f := by
  unfold fetch
  cases d.file? path with
  | none => simp
  | some g => simp

theorem permit_fetch_eq_ok_iff {access : Access} {verb : String} {f : File} :
    (do d.permit access path; d.fetch verb path) = .ok f ↔
      d.fault ≠ some ⟨access, path⟩ ∧ d.file? path = some f := by
  rw [← permit_eq_ok_iff, ← fetch_eq_ok_iff verb]
  cases d.permit access path with
  | error e => simp [bind, Except.bind]
  | ok u => simp [bind, Except.bind]

theorem stat_eq_ok_iff {f : File} :
    d.stat path = .ok f ↔ d.fault ≠ some ⟨.stat, path⟩ ∧ d.file? path = some f :=
  permit_fetch_eq_ok_iff

theorem read_eq_ok_iff {f : File} :
    d.read path = .ok f ↔ d.fault ≠ some ⟨.read, path⟩ ∧ d.file? path = some f :=
  permit_fetch_eq_ok_iff

theorem write_eq_ite {f : File} (hf : d.file? path = some f) (bytes : ByteArray) (mode : Nat) :
    d.write path bytes mode =
      if d.fault = some ⟨.write, path⟩ then .error (.denied .write path)
      else .ok (d.put path { f with bytes }) := by
  rw [write, store, hf, permit]
  split
  · rfl
  · rfl

theorem file?_put (f : File) : (d.put path f).file? path = some f := by
  rw [put, file?, Entries.get?_set, if_pos rfl]

end QueryMigration.Disk

namespace QueryMigration.SourceFile

open Pass

inductive Ends (d : Disk) (path : String) : Disk → Except Failure Report → Prop
  | stat {e : DiskError} (hstat : d.stat path = .error e) : Ends d path d (.error (.stat path e))
  | read {found : File} {e : DiskError} (hstat : d.stat path = .ok found)
      (hread : d.read path = .error e) : Ends d path d (.error (.read path e))
  | decode {f : File} (hstat : d.stat path = .ok f) (hread : d.read path = .ok f)
      (hinvalid : ¬ f.bytes.IsValidUTF8) : Ends d path d (.error (.decode path))
  | write {f : File} {t : Text} (hstat : d.stat path = .ok f) (hread : d.read path = .ok f)
      (htext : f.bytes = File.encode t) (hfault : d.fault = some ⟨.write, path⟩) :
      Ends d path d (.error (.write path (.denied .write path)))
  | done {f : File} {t : Text} (hstat : d.stat path = .ok f) (hread : d.read path = .ok f)
      (htext : f.bytes = File.encode t) (hpermit : d.fault ≠ some ⟨.write, path⟩) :
      Ends d path (d.put path { f with bytes := File.encode (output migration t) })
        (.ok ⟨path, (stages migration t).map Change.ofStage⟩)

theorem ends_migrate (d : Disk) (path : String) :
    Ends d path (migrate d path).disk (migrate d path).result := by
  unfold migrate
  cases hstat : d.stat path with
  | error e => exact .stat hstat
  | ok found =>
    cases hread : d.read path with
    | error e => exact .read hstat hread
    | ok f =>
      -- Both accesses find the same file: the mode that is written belongs to the bytes that are read.
      have hsome := (Disk.read_eq_ok_iff.1 hread).2
      obtain rfl : found = f := Option.some.inj ((Disk.stat_eq_ok_iff.1 hstat).2.symm.trans hsome)
      cases htext : found.text? with
      | none =>
        simp only [htext]
        exact .decode hstat hread (File.text?_eq_none_iff.1 htext)
      | some t =>
        have hbytes := File.text?_eq_some_iff.1 htext
        simp only [htext, Disk.write_eq_ite hsome]
        by_cases hfault : d.fault = some ⟨.write, path⟩
        · rw [if_pos hfault]
          exact .write hstat hread hbytes hfault
        · rw [if_neg hfault]
          exact .done hstat hread hbytes hfault

variable {d d' : Disk} {path : String}

theorem Ends.disk_eq_of_error {e : Failure} (h : Ends d path d' (.error e)) : d' = d := by
  cases h with
  | stat => rfl
  | read => rfl
  | decode => rfl
  | write => rfl

theorem Ends.decode_iff {r : Except Failure Report} (h : Ends d path d' r) :
    r = .error (.decode path) ↔
      (∃ found, d.stat path = .ok found) ∧ ∃ f, d.read path = .ok f ∧ ¬ f.bytes.IsValidUTF8 := by
  cases h with
  | stat hstat => simp [hstat]
  | read hstat hread => simp [hread]
  | decode hstat hread hinvalid => simp [hstat, hread, hinvalid]
  | write hstat hread htext hfault => simp [hread, File.isValidUTF8_iff.2 ⟨_, htext⟩]
  | done hstat hread htext hpermit => simp [hread, File.isValidUTF8_iff.2 ⟨_, htext⟩]

theorem Ends.ok_iff {r : Except Failure Report} (h : Ends d path d' r) :
    (∃ report, r = .ok report) ↔
      (∀ access, d.fault ≠ some ⟨access, path⟩) ∧
        ∃ f, d.file? path = some f ∧ f.bytes.IsValidUTF8 := by
  cases h with
  | stat hstat =>
    simp only [reduceCtorEq, exists_false, false_iff, not_and, not_exists]
    intro hfault f hf
    rw [Disk.stat_eq_ok_iff.2 ⟨hfault .stat, hf⟩] at hstat
    cases hstat
  | read hstat hread =>
    simp only [reduceCtorEq, exists_false, false_iff, not_and, not_exists]
    intro hfault f hf
    rw [Disk.read_eq_ok_iff.2 ⟨hfault .read, hf⟩] at hread
    cases hread
  | decode hstat hread hinvalid =>
    simp only [reduceCtorEq, exists_false, false_iff, not_and, not_exists]
    intro hfault f hf hvalid
    rw [(Disk.read_eq_ok_iff.1 hread).2] at hf
    cases hf
    exact hinvalid hvalid
  | write hstat hread htext hfault =>
    simp only [reduceCtorEq, exists_false, false_iff, not_and]
    intro hpermit
    exact absurd hfault (hpermit .write)
  | done hstat hread htext hpermit =>
    obtain ⟨hstat, hf⟩ := Disk.stat_eq_ok_iff.1 hstat
    refine ⟨fun _ => ⟨fun access => ?_, _, hf, File.isValidUTF8_iff.2 ⟨_, htext⟩⟩, fun _ => ⟨_, rfl⟩⟩
    cases access with
    | stat => exact hstat
    | read => exact (Disk.read_eq_ok_iff.1 hread).1
    | write => exact hpermit

/-- What a completed migration has done: the file at the path held the text `t`, it holds what the
passes make of it, and nothing else on the disk has changed. -/
structure Rewritten (d : Disk) (path : String) (d' : Disk) (old new : File) (t : Text) : Prop where
  before : d.file? path = some old
  after : d'.file? path = some new
  valid : old.bytes.IsValidUTF8
  decoded : old.text? = some t
  bytes : new.bytes = File.encode (output migration t)
  mode : new.mode = old.mode
  folder : new.folder = old.folder
  others : ∀ other, other ≠ Path.ofString path →
    Entries.get? other d'.files = Entries.get? other d.files
  fault : d'.fault = d.fault

theorem rewritten_put {f : File} {t : Text} {bytes : ByteArray} (hf : d.file? path = some f)
    (htext : f.bytes = File.encode t) (hbytes : bytes = File.encode (output migration t)) :
    Rewritten d path (d.put path { f with bytes }) f { f with bytes } t where
  before := hf
  after := Disk.file?_put _
  valid := File.isValidUTF8_iff.2 ⟨t, htext⟩
  decoded := File.text?_eq_some_iff.2 htext
  bytes := hbytes
  mode := rfl
  folder := rfl
  others := by
    intro other hother
    rw [Disk.put, Entries.get?_set, if_neg hother]
  fault := rfl

theorem Ends.rewritten_of_ok {report : Report} (h : Ends d path d' (.ok report)) :
    ∃ old new t, Rewritten d path d' old new t ∧
      report = ⟨path, (stages migration t).map Change.ofStage⟩ := by
  cases h with
  | @done f t hstat hread htext hpermit =>
    exact ⟨f, _, t, rewritten_put (Disk.read_eq_ok_iff.1 hread).2 htext rfl, rfl⟩

/-- The bytes stay the same exactly if every pass leaves the text alone. -/
theorem Rewritten.bytes_eq_iff {old new : File} {t : Text} (h : Rewritten d path d' old new t) :
    new.bytes = old.bytes ↔ ∀ p ∈ migration, p.apply t = t := by
  rw [h.bytes, File.text?_eq_some_iff.1 h.decoded, File.encode_inj]
  exact output_eq_self_iff (fun _ hp => hp) t

theorem changed_eq_false_iff (path : String) (passes : List Pass) (t : Text) :
    (⟨path, (stages passes t).map Change.ofStage⟩ : Report).changed = false ↔
      ∀ p ∈ passes, p.apply t = t := by
  rw [← unchanged_iff, Report.changed, List.any_map, List.any_eq_false]
  refine forall_congr' fun s => imp_congr_right fun _ => ?_
  rw [Function.comp_apply, decide_eq_true_iff, Nat.not_lt, Nat.le_zero_eq]
  rfl

/-- A migration is all or nothing. A failure leaves the disk as it was. A success leaves the migrated
text in the file, the same bytes if no pass changes anything, and all else as it was; it takes a file
in UTF-8 to which no access is denied. A file that can be found and read fails to be decoded exactly
if its bytes are not UTF-8. -/
theorem migrate_all_or_nothing (d : Disk) (path : String) :
    (∀ e, (migrate d path).result = .error e → (migrate d path).disk = d) ∧
      (∀ report, (migrate d path).result = .ok report →
        ∃ old new t, Rewritten d path (migrate d path).disk old new t ∧
          ((∀ p ∈ migration, p.apply t = t) → new.bytes = old.bytes)) ∧
      ((∃ report, (migrate d path).result = .ok report) ↔
        (∀ access, d.fault ≠ some ⟨access, path⟩) ∧
          ∃ f, d.file? path = some f ∧ f.bytes.IsValidUTF8) ∧
      ((migrate d path).result = .error (.decode path) ↔
        (∃ found, d.stat path = .ok found) ∧
          ∃ f, d.read path = .ok f ∧ ¬ f.bytes.IsValidUTF8) := by
  have hends := ends_migrate d path
  refine ⟨fun e herror => ?_, fun report hok => ?_, hends.ok_iff, hends.decode_iff⟩
  · rw [herror] at hends
    exact hends.disk_eq_of_error
  · rw [hok] at hends
    obtain ⟨old, new, t, h, -⟩ := hends.rewritten_of_ok
    exact ⟨old, new, t, h, h.bytes_eq_iff.2⟩

/-- A completed migration reports a change exactly if the file's bytes are different. -/
theorem changed_iff_bytes_ne {d : Disk} {path : String} {report : Report}
    (hok : (migrate d path).result = .ok report) :
    ∃ old new, d.file? path = some old ∧ (migrate d path).disk.file? path = some new ∧
      (report.changed = true ↔ new.bytes ≠ old.bytes) := by
  have hends := ends_migrate d path
  rw [hok] at hends
  obtain ⟨old, new, t, h, rfl⟩ := hends.rewritten_of_ok
  refine ⟨old, new, h.before, h.after, ?_⟩
  rw [Ne, h.bytes_eq_iff, ← changed_eq_false_iff path, Bool.not_eq_false]

def flaggedText : Text := "run(`SELECT ? WHERE active = 1;`)".toList

def flaggedSource : Disk := Disk.empty.put "users.ts" ⟨File.encode flaggedText, 0o600, false⟩

theorem changed_iff_bytes_ne_flaggedSource :
    ∃ report, (migrate flaggedSource "users.ts").result = .ok report ∧ report.changed = true ∧
      ∃ old new, flaggedSource.file? "users.ts" = some old ∧
        (migrate flaggedSource "users.ts").disk.file? "users.ts" = some new ∧
        (report.changed = true ↔ new.bytes ≠ old.bytes) := by
  have hchanged : (migrate flaggedSource "users.ts").result.toOption.map Report.changed =
      some true := by
    decide +kernel
  have hfile : flaggedSource.file? "users.ts" = some ⟨File.encode flaggedText, 0o600, false⟩ :=
    Disk.file?_put _
  obtain ⟨report, hok⟩ := (ends_migrate flaggedSource "users.ts").ok_iff.2
    ⟨fun _ => nofun, _, hfile, File.isValidUTF8_iff.2 ⟨flaggedText, rfl⟩⟩
  rw [hok] at hchanged
  exact ⟨report, hok, Option.some.inj hchanged, changed_iff_bytes_ne hok⟩

end QueryMigration.SourceFile
