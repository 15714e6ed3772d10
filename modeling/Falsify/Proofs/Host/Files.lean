import Falsify.Host.Simulated
import Falsify.Proofs.FileTree.Append
import Falsify.Proofs.Observation.Append

/-!
# Hosts and their files

What is taken for granted of a host, and what appending to a log comes to on it.  Of any host it is enough to
know that nothing but writing changes the content of a file.  A host whose files are a file tree does what the
operations on the tree do, whatever is refused there.

## Key results

- `Host.OpensSafely`: a host on which the content of a file outlasts all but writing; on it `kept_openLog`:
  opening a log loses no content.
- `Host.KeepsFiles`: a host whose files are a file tree; `keepsFiles_simulated`: the simulated host is one.
- `Host.KeepsFiles.opensSafely`: such a host opens files safely.
- `Observation.append_apply`: observations are appended as one text, where appending works.
-/

namespace Falsify

variable {τ γ : Type}

/-! ## Safe hosts -/

/-- The content of every file of the host `h` is that of the same file of the host `h'`. -/
def Kept (content? : τ → γ → Option String) (h h' : τ) : Prop :=
  ∀ file content, content? h file = some content → content? h' file = some content

namespace Kept

variable {content? : τ → γ → Option String} {h h' h'' : τ}

theorem of_eq (heq : content? h' = content? h) : Kept content? h h' := by
  intro file content hcontent
  rw [heq]
  exact hcontent

theorem trans (hkept : Kept content? h h') (hkept' : Kept content? h' h'') : Kept content? h h'' :=
  fun file content hcontent => hkept' file content (hkept file content hcontent)

end Kept

/-- Nothing that the host is asked for but writing changes the content of a file.  Seeds, times, identifiers and
    log lines have nothing to do with files; making folders and opening a file for appending may make new ones. -/
structure Host.OpensSafely (host : Host (StateM τ)) (content? : τ → γ → Option String) : Prop where
  entropy : ∀ h, content? (host.entropy h).2 = content? h
  now : ∀ h, content? (host.now h).2 = content? h
  runId : ∀ h, content? (host.runId h).2 = content? h
  log : ∀ line h, content? (host.log line h).2 = content? h
  makeParents : ∀ path h, Kept content? h (host.makeParents path h).2
  openFile : ∀ path h, Kept content? h (host.openFile path h).2

/-- Opening a log, whether it works or not, leaves every file with the content that it had. -/
theorem Host.OpensSafely.kept_openLog {host : Host (StateM τ)} {content? : τ → γ → Option String}
    (hhost : host.OpensSafely content?) (path : String) (h : τ) : Kept content? h (openLog host path h).2 := by
  unfold openLog
  rw [exceptT_bind_apply, orReport_apply]
  -- Whether or not the folders could be made, nothing has been written into a file yet.
  cases (host.makeParents path h).1 with
  | error fault => exact hhost.makeParents path h
  | ok made => exact (hhost.makeParents path h).trans (hhost.openFile path _)

/-! ## File trees -/

/-- On a host whose files are a file tree, a step does what an edit of the tree does; if that fails, the tree is
    left as it was. -/
def Edits (files : τ → FileTree) (step : StateM τ (Except FileFault Unit))
    (edit : FileTree → Except FileFault FileTree) : Prop :=
  ∀ h, match edit (files h) with
    | .ok t => (step h).1 = .ok () ∧ files (step h).2 = t
    | .error fault => (step h).1 = .error fault ∧ files (step h).2 = files h

/-- The files of the host are a file tree: what is done with files is what it is there, and the rest of what a
    check needs leaves the files alone. -/
structure Host.KeepsFiles (host : Host (StateM τ)) (files : τ → FileTree) : Prop where
  entropy : ∀ h, files (host.entropy h).2 = files h
  now : ∀ h, files (host.now h).2 = files h
  runId : ∀ h, files (host.runId h).2 = files h
  log : ∀ line h, files (host.log line h).2 = files h
  makeParents_fst : ∀ path h, (host.makeParents path h).1 = ((files h).makeParents path).1
  makeParents_snd : ∀ path h, files (host.makeParents path h).2 = ((files h).makeParents path).2
  openFile : ∀ path, Edits files (host.openFile path) (·.openFile path)
  write : ∀ path text, Edits files (host.write path text) (·.write path text)
  flush_fst : ∀ path h, (host.flush path h).1 = .ok ()
  flush_snd : ∀ path h, files (host.flush path h).2 = files h

/-- What a simulation does to its files is the edit that it was asked for. -/
theorem Simulation.edits_edit (f : FileTree → Except FileFault FileTree) :
    Edits Simulation.files (Simulation.edit f) f := by
  intro s
  unfold Simulation.edit
  cases f s.files with
  | ok t => exact ⟨rfl, rfl⟩
  | error fault => exact ⟨rfl, rfl⟩

/-- The files of a simulated host are a file tree. -/
theorem Host.keepsFiles_simulated : Host.simulated.KeepsFiles Simulation.files where
  entropy _ := rfl
  now _ := rfl
  runId _ := rfl
  log _ _ := rfl
  makeParents_fst _ _ := rfl
  makeParents_snd _ _ := rfl
  openFile path := Simulation.edits_edit (·.openFile path)
  write path text := Simulation.edits_edit (·.write path text)
  flush_fst _ _ := rfl
  flush_snd _ _ := rfl

section

variable {host : Host (StateM τ)} {files : τ → FileTree} {path : String} {h : τ}

/-- An edit that works is what a step does. -/
theorem Edits.eq_of_ok {step : StateM τ (Except FileFault Unit)} {edit : FileTree → Except FileFault FileTree}
    (hstep : Edits files step edit) {t : FileTree} (hedit : edit (files h) = .ok t) :
    ∃ h', step h = (.ok (), h') ∧ files h' = t := by
  have happly := hstep h
  rw [hedit] at happly
  exact ⟨(step h).2, Prod.ext happly.1 rfl, happly.2⟩

/-- The fault of an edit is the fault of the step that does it. -/
theorem Edits.fst_of_error {step : StateM τ (Except FileFault Unit)}
    {edit : FileTree → Except FileFault FileTree} (hstep : Edits files step edit) {fault : FileFault}
    (hedit : edit (files h) = .error fault) : (step h).1 = .error fault := by
  have happly := hstep h
  rw [hedit] at happly
  exact happly.1

/-- Whatever is refused in the tree, nothing but writing changes the content of a file. -/
theorem Host.KeepsFiles.opensSafely (hhost : host.KeepsFiles files) :
    host.OpensSafely fun h place => (files h).read? place where
  entropy h := by rw [hhost.entropy]
  now h := by rw [hhost.now]
  runId h := by rw [hhost.runId]
  log line h := by rw [hhost.log]
  makeParents path h := by
    refine .of_eq (funext fun place => ?_)
    rw [hhost.makeParents_snd, FileTree.read?_makeParents]
  openFile path h := by
    intro place content hcontent
    -- To open a file creates it if it is missing, and leaves what is in one that is there.
    have hopen := hhost.openFile path h
    show (files (host.openFile path h).2).read? place = some content
    split at hopen
    · rename_i t ht
      rw [hopen.2]
      exact FileTree.read?_openFile_of_some ht hcontent
    · rw [hopen.2]
      exact hcontent

/-! ## Appending observations -/

namespace Observation

/-- Observations are written line by line to the end of the file, where writing is not refused. -/
theorem exists_writeAll_eq (hhost : host.KeepsFiles files) (os : List Observation) {t : FileTree} {text : String}
    (hfiles : files h = t.withText path text) (hallowed : t.refusal? .write (FileTree.place path) = none) :
    ∃ h', writeAll host path os h = (.ok (), h') ∧ files h' = t.withText path (text ++ lines os) := by
  -- What has been written so far is in front of the line of the next observation.
  have hwrite {g : τ} {written : String} (hg : files g = t.withText path written) (more : String) :
      ∃ h', host.write path more g = (.ok (), h') ∧ files h' = t.withText path (written ++ more) := by
    refine (hhost.write path more).eq_of_ok (FileTree.write_eq_ok_iff.2 ?_)
    rw [hg, FileTree.withText_withText]
    exact ⟨hallowed, rfl⟩
  induction os generalizing h text with
  | nil => exact ⟨h, rfl, by rw [hfiles, lines, List.map_nil, String.join_nil, String.append_empty]⟩
  | cons o os ih =>
    obtain ⟨h₁, hrecord, hfiles₁⟩ := hwrite hfiles o.toJson.text
    obtain ⟨h₂, hend, hfiles₂⟩ := hwrite hfiles₁ "\n"
    obtain ⟨h₃, hrest, hfiles₃⟩ := ih hfiles₂
    refine ⟨h₃, ?_, ?_⟩
    · rw [writeAll, exceptT_bind_apply, orReport_apply, hrecord]
      dsimp only [Except.mapError]
      rw [exceptT_bind_apply, orReport_apply, hend]
      exact hrest
    · rw [hfiles₃, show lines (o :: os) = lines ([o] ++ os) from rfl, lines_append]
      simp [lines, line, String.append_assoc]

/-- Where appending to a path works, the observations of a report are appended as one text. -/
theorem append_apply (hhost : host.KeepsFiles files) (happend : ((files h).append path "").1 = .ok ())
    (runId : Uuid) (property : String) (report : Report) :
    let os := ofReport runId property report
    (append host path runId property report h).1 = .ok os.length ∧
      files (append host path runId property report h).2 = ((files h).append path (lines os)).2 := by
  intro os
  obtain ⟨u, hmade, hopens, hmore⟩ := FileTree.append_eq_of_ok happend
  obtain ⟨-, -, -, hallowed⟩ := FileTree.append_fst_eq_ok_iff.1 happend
  rw [← FileTree.refusal?_makeParents hmade] at hallowed
  -- Step by step: the folders, the file, its lines, and what was held back.
  have hparents : host.makeParents path h = (.ok (), (host.makeParents path h).2) := by
    refine Prod.ext ?_ rfl
    rw [hhost.makeParents_fst, hmade]
  have hfolders : files (host.makeParents path h).2 = u := by
    rw [hhost.makeParents_snd, hmade]
  obtain ⟨h₁, hopen, hopened⟩ := (hhost.openFile path).eq_of_ok (h := (host.makeParents path h).2)
    (FileTree.openFile_eq_ok_iff.2 ⟨hfolders ▸ hopens, rfl⟩)
  rw [hfolders] at hopened
  obtain ⟨h₂, hwritten, hlines⟩ := exists_writeAll_eq hhost os hopened hallowed
  have hflush : host.flush path h₂ = (.ok (), (host.flush path h₂).2) := Prod.ext (hhost.flush_fst path h₂) rfl
  have hopenLog : openLog host path h = (.ok (), h₁) := by
    unfold openLog
    rw [exceptT_bind_apply, orReport_apply, hparents]
    dsimp only [Except.mapError]
    rw [orReport_apply, hopen]
    rfl
  have hrun : append host path runId property report h = (.ok os.length, (host.flush path h₂).2) := by
    unfold append
    rw [exceptT_bind_apply, hopenLog]
    dsimp only
    rw [exceptT_bind_apply, hwritten]
    dsimp only
    rw [exceptT_bind_apply, orReport_apply, hflush]
    rfl
  refine ⟨congrArg Prod.fst hrun, ?_⟩
  rw [hrun, hhost.flush_snd, hlines, String.empty_append, hmore]

end Observation

end

end Falsify
