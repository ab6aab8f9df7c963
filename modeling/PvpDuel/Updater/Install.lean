import PvpDuel.Lib.Files

/-!
# Installing an update

The updater for Linux. It moves the old image away before the new one takes its place, so that for a
moment there is none.
-/

namespace PvpDuel.Updater

open Files (Program Op exec Disk OpOutcome)

/-- The image of the client, the download, and the old image while it is replaced. -/
inductive UpdateFile
  | target
  | temporary
  | backup
deriving DecidableEq, Repr

/-- The updater returns early, or comes to `execl`, which makes it the new client. -/
inductive Ending
  | returned (code : Int)
  | execl
deriving DecidableEq, Repr

/-- The download is removed before an early return. -/
def cleanUp : Program (Op UpdateFile UInt8) Ending :=
  .call (.remove .temporary) fun _ => .done (.returned 1)

/-- The renames, with the one that takes the first of them back. -/
def replaceTarget : Program (Op UpdateFile UInt8) Ending :=
  .call (.remove .backup) fun _ =>
  .call (.rename .target .backup) fun moved =>
    if moved then
      .call (.rename .temporary .target) fun replaced =>
        if replaced then .call (.remove .backup) fun _ => .done .execl
        else .call (.rename .backup .target) fun _ => .done (.returned 1)
    else cleanUp

/-- The stream is not flushed: what its buffer still holds is written when it is closed. -/
def install (content : List UInt8) : Program (Op UpdateFile UInt8) Ending :=
  .call (.truncate .temporary) fun opened =>
    if opened then
      .call (.write .temporary content false) fun written =>
        if written then
          .call (.chmod .temporary) fun executable => if executable then replaceTarget else cleanUp
        else cleanUp
    else cleanUp

/-- `main`, for the arguments after the name of the program. -/
def main (download : String → Option (List UInt8)) (sha256 : List UInt8 → String) :
    List String → Program (Op UpdateFile UInt8) Ending
  | [_, url, expectedHash] =>
      match download url with
      | none => .done (.returned 1)
      | some content => if sha256 content = expectedHash then install content else .done (.returned 1)
  | _ => .done (.returned 2)

/-! ### The old image or the new one -/

/-- In a run, the target is the old image or the new one after every operation, and an early return
leaves nothing else behind. -/
def KeepsClient (old content : List UInt8) (p : Program (Op UpdateFile UInt8) Ending)
    (outcomes : ℕ → OpOutcome) (disk : Disk UpdateFile UInt8) : Prop :=
  p.Along exec (fun t => t .target = some old ∨ t .target = some content)
    (fun ending after => ∀ code, ending = .returned code → after .temporary = none ∧ after .backup = none)
    outcomes disk

/-- Some step before the old image is moved fails, and there is nothing else in the end. -/
def GivenUp (outcomes : ℕ → OpOutcome) (disk : Disk UpdateFile UInt8) : Prop :=
  if outcomes 0 ≠ .done then
    (outcomes 1 = .done ∨ disk .temporary = none) ∧ disk .backup = none
  else if (outcomes 1).isFailure then outcomes 2 = .done ∧ disk .backup = none
  else if outcomes 2 ≠ .done then outcomes 3 = .done ∧ disk .backup = none
  else outcomes 4 ≠ .done ∧ outcomes 5 = .done ∧ (outcomes 3 = .done ∨ disk .backup = none)

section Keeping

variable {old content : List UInt8} {outcomes : ℕ → OpOutcome} {disk : Disk UpdateFile UInt8}

theorem keepsClient_cleanUp (htarget : disk .target = some old) :
    KeepsClient old content cleanUp outcomes disk ↔
      (outcomes 0 = .done ∨ disk .temporary = none) ∧ disk .backup = none := by
  rw [KeepsClient, cleanUp, Program.along_call, Program.along_done]
  by_cases hremoved : outcomes 0 = .done
  · simp [hremoved, exec, htarget]
  · rw [Files.exec_of_ne_done (by simp) hremoved]
    simp [hremoved, htarget]

/-- What is left of the other files after the removal of an old backup. -/
theorem exec_removeBackup (htarget : disk .target = some old) {download : List UInt8}
    (htemporary : disk .temporary = some download) (outcome : OpOutcome) :
    (exec (.remove .backup) outcome disk).2 .target = some old ∧
      (exec (.remove .backup) outcome disk).2 .temporary = some download ∧
      ((exec (.remove .backup) outcome disk).2 .backup = none ↔
        outcome = .done ∨ disk .backup = none) := by
  by_cases hremoved : outcome = .done
  · simp [hremoved, exec, htarget, htemporary]
  · rw [Files.exec_of_ne_done (by simp) hremoved]
    simp [hremoved, htarget, htemporary]

theorem keepsClient_replaceTarget (htarget : disk .target = some old) {download : List UInt8}
    (htemporary : disk .temporary = some download) :
    KeepsClient old content replaceTarget outcomes disk ↔
      outcomes 1 ≠ .done ∧ outcomes 2 = .done ∧ (outcomes 0 = .done ∨ disk .backup = none) := by
  obtain ⟨htarget', htemporary', hbackup⟩ := exec_removeBackup htarget htemporary (outcomes 0)
  rw [← hbackup, KeepsClient, replaceTarget, Program.along_call, and_iff_right (.inl htarget'),
    Program.along_call]
  generalize (exec (.remove .backup) (outcomes 0) disk).2 = disk' at *
  by_cases hmoved : outcomes 1 = .done
  · -- From here to the next rename there is no image at the target.
    refine iff_of_false (fun h => ?_) fun h => h.1 hmoved
    have hgone : (exec (.rename .target .backup) (outcomes 1) disk').2 .target = none := by
      simp [hmoved, exec, htarget']
    obtain hold | hnew := h.1
    · exact absurd (hgone.symm.trans hold) (by simp)
    · exact absurd (hgone.symm.trans hnew) (by simp)
  · rw [Files.exec_of_ne_done (by simp) hmoved, and_iff_right (.inl htarget'), if_neg Bool.false_ne_true,
      and_iff_right hmoved]
    refine (keepsClient_cleanUp htarget').trans (and_congr_left fun _ => ?_)
    simp [htemporary']

/-- The file holds what the write has reached, and a part that is missing may go unnoticed. -/
theorem exec_write_reached (content : List UInt8) (outcome : OpOutcome)
    (hempty : disk .temporary = some []) :
    ∃ reached, exec (.write .temporary content false) outcome disk =
      (!outcome.isFailure, Function.update disk .temporary (some (content.take reached))) := by
  cases outcome with
  | done => exact ⟨content.length, by simp [exec, hempty, OpOutcome.isFailure]⟩
  | fails reached => exact ⟨reached, by simp [exec, hempty, OpOutcome.isFailure]⟩
  | unnoticed reached => exact ⟨reached, by simp [exec, hempty, OpOutcome.isFailure]⟩

/-- The part with the written download, of which something may be missing. -/
theorem keepsClient_chmod (htarget : disk .target = some old) {download : List UInt8}
    (htemporary : disk .temporary = some download) :
    KeepsClient old content (.call (.chmod .temporary) fun executable =>
        if executable then replaceTarget else cleanUp) outcomes disk ↔
      if outcomes 0 ≠ .done then outcomes 1 = .done ∧ disk .backup = none
      else outcomes 2 ≠ .done ∧ outcomes 3 = .done ∧ (outcomes 1 = .done ∨ disk .backup = none) := by
  rw [KeepsClient, Program.along_call]
  by_cases hchanged : outcomes 0 = .done
  · have hexec : exec (.chmod .temporary) (outcomes 0) disk = (true, disk) := by
      simp [hchanged, exec, htemporary]
    rw [hexec, if_pos rfl, and_iff_right (.inl htarget), if_neg (not_not_intro hchanged)]
    exact keepsClient_replaceTarget htarget htemporary
  · rw [Files.exec_of_ne_done (by simp) hchanged, and_iff_right (.inl htarget), if_neg Bool.false_ne_true,
      if_pos hchanged]
    refine (keepsClient_cleanUp htarget).trans (and_congr_left fun _ => ?_)
    simp [htemporary]

theorem keepsClient_install (htarget : disk .target = some old) :
    KeepsClient old content (install content) outcomes disk ↔ GivenUp outcomes disk := by
  rw [KeepsClient, install, GivenUp, Program.along_call]
  by_cases hopened : outcomes 0 = .done
  · have htruncated : exec (.truncate .temporary) (outcomes 0) disk =
        (true, Function.update disk .temporary (some [])) := by
      rw [hopened]
      rfl
    obtain ⟨reached, hwritten⟩ := exec_write_reached content (outcomes 1)
      (Function.update_self UpdateFile.temporary (some []) disk)
    rw [Function.update_idem] at hwritten
    have hempty : Function.update disk .temporary (some []) .target = some old := by simp [htarget]
    have hdownload : Function.update disk .temporary (some (content.take reached)) .target = some old := by
      simp [htarget]
    have hthere : Function.update disk .temporary (some (content.take reached)) .temporary =
        some (content.take reached) := by simp
    rw [htruncated, and_iff_right (.inl hempty), if_pos rfl, if_neg (not_not_intro hopened),
      Program.along_call, hwritten, and_iff_right (.inl hdownload)]
    by_cases hfailed : (outcomes 1).isFailure = true
    · rw [hfailed, Bool.not_true, if_neg Bool.false_ne_true, if_pos rfl]
      refine (keepsClient_cleanUp hdownload).trans ?_
      simp
    · rw [Bool.not_eq_true] at hfailed
      rw [hfailed, Bool.not_false, if_pos rfl, if_neg Bool.false_ne_true]
      exact keepsClient_chmod hdownload hthere
  · rw [Files.exec_of_ne_done (by simp) hopened, and_iff_right (.inl htarget), if_neg Bool.false_ne_true,
      if_pos hopened]
    exact keepsClient_cleanUp htarget

end Keeping

/-- The updater keeps an image at its place throughout, and nothing else in the end, exactly when it
gives up before it moves the old one. -/
theorem update_keeps_client_iff {download : String → Option (List UInt8)} {sha256 : List UInt8 → String}
    {path url : String} {old content : List UInt8} {disk : Disk UpdateFile UInt8}
    (htarget : disk .target = some old) (hdownload : download url = some content)
    (outcomes : ℕ → OpOutcome) :
    KeepsClient old content (main download sha256 [path, url, sha256 content]) outcomes disk ↔
      GivenUp outcomes disk := by
  rw [main, hdownload]
  dsimp only
  rw [if_pos rfl]
  exact keepsClient_install htarget

def sampleHash : String := "dbc1b4c900ffe48d575b5da5c638040125f65db0fe3e24494b76ea986457d986"

theorem update_keeps_client_iff_full :
    KeepsClient [1] [2] (main (fun _ => some [2]) (fun _ => sampleHash) ["client", "url", sampleHash])
      (fun n => if n = 1 then .fails 0 else .done) fun file => if file = .target then some [1] else none :=
  (update_keeps_client_iff rfl rfl _).2 (by simp [GivenUp, OpOutcome.isFailure])

/-- An update during which nothing fails. -/
theorem update_leaves_no_client :
    ((main (fun _ => some [2]) (fun _ => sampleHash) ["client", "url", sampleHash]).states exec
        (fun _ => .done) fun file => if file = .target then some [1] else none).map (fun t => t .target) =
      [some [1], some [1], some [1], some [1], none, some [2], some [2]] := by
  decide

/-! ### No image is lost -/

/-- The old image is at its place, or beside it with nothing at its place. -/
def Held (old : List UInt8) (t : Disk UpdateFile UInt8) : Prop :=
  t .target = some old ∨ t .target = none ∧ t .backup = some old

/-- What was downloaded is at the place of the old image, or what the disk has of it. -/
def Replaced (content : List UInt8) (t : Disk UpdateFile UInt8) : Prop :=
  ∃ reached, t .target = some (content.take reached)

def Recoverable (old content : List UInt8) (t : Disk UpdateFile UInt8) : Prop :=
  Held old t ∨ Replaced content t

/-- An early return leaves the old image; the client is started only when the new one is there. -/
def Installed (old content : List UInt8) : Ending → Disk UpdateFile UInt8 → Prop
  | .returned _, t => Held old t
  | .execl, t => Replaced content t

section Recovering

variable {old content : List UInt8} {disk : Disk UpdateFile UInt8}

end Recovering

end PvpDuel.Updater
